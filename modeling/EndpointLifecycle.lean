import EndpointLifecycle.Endpoint
import EndpointLifecycle.Options.Load
import EndpointLifecycle.Proofs.Address.Rendered
import EndpointLifecycle.Proofs.ClosedForm
import EndpointLifecycle.Proofs.Connector.Accounting
import EndpointLifecycle.Proofs.Connector.Attempts
import EndpointLifecycle.Proofs.Connector.Composition
import EndpointLifecycle.Proofs.Connector.Reporting
import EndpointLifecycle.Proofs.Connector.Shutdown
import EndpointLifecycle.Proofs.EitherRole
import EndpointLifecycle.Proofs.Hostname
import EndpointLifecycle.Proofs.Listener.Accounting
import EndpointLifecycle.Proofs.Listener.Attempts
import EndpointLifecycle.Proofs.Listener.Breaks
import EndpointLifecycle.Proofs.Listener.Commuting
import EndpointLifecycle.Proofs.Listener.Composition
import EndpointLifecycle.Proofs.Listener.Shutdown
import EndpointLifecycle.Proofs.Loading
