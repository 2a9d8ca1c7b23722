import EndpointLifecycle.Duration

/-!
# Options of an endpoint

They are read when the endpoint is created. A longest reconnect interval of zero stands for the
first one.
-/

namespace EndpointLifecycle

structure Options where
  ipv4Only : Bool := true
  reconnectMillis : UInt64 := 100
  reconnectMaxMillis : UInt64 := 0
  sendBuffer : UInt64 := 131072
  recvBuffer : UInt64 := 131072
  backlog : UInt32 := 100
  deriving DecidableEq

namespace Options

def withIpv4Only (o : Options) (ipv4Only : Bool) : Options := { o with ipv4Only }

/-- Parts of a millisecond are dropped. -/
def withReconnectInterval (o : Options) (interval : Duration) : Options :=
  { o with reconnectMillis := interval.toMillis }

def withReconnectIntervalMax (o : Options) (interval : Duration) : Options :=
  { o with reconnectMaxMillis := interval.toMillis }

def withBufferSizes (o : Options) (sendBuffer recvBuffer : UInt64) : Options :=
  { o with sendBuffer, recvBuffer }

def withBacklog (o : Options) (backlog : UInt32) : Options := { o with backlog }

def reconnectInterval (o : Options) : Duration := Duration.ofMillis o.reconnectMillis

def reconnectIntervalMax (o : Options) : Duration :=
  if o.reconnectMaxMillis = 0 then o.reconnectInterval else Duration.ofMillis o.reconnectMaxMillis

end Options

end EndpointLifecycle
