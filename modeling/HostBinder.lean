import HostBinder.Build
import HostBinder.Injection.Dispatch
import HostBinder.Injection.Pool
import HostBinder.Marker.Component
import HostBinder.Marker.Host
import HostBinder.Proofs.Binder.AcceptedNames
import HostBinder.Proofs.Binder.Accounting
import HostBinder.Proofs.Binder.Clean
import HostBinder.Proofs.Binder.Conformance
import HostBinder.Proofs.Binder.ImportedNames
import HostBinder.Proofs.Binder.Independence
import HostBinder.Proofs.Binder.IndexText
import HostBinder.Proofs.Binder.Isolation
import HostBinder.Proofs.Binder.LocalNames
import HostBinder.Proofs.Binder.ModuleNames
import HostBinder.Proofs.Binder.Policies
import HostBinder.Proofs.Binder.RegistryKeys
import HostBinder.Proofs.Binder.Rendering
import HostBinder.Proofs.Binder.Resolution
import HostBinder.Proofs.Binder.Slots
import HostBinder.Proofs.Binder.ToldEvents
import HostBinder.Proofs.Build.Directives
import HostBinder.Proofs.Code.FieldNames
import HostBinder.Proofs.Code.Identifiers
import HostBinder.Proofs.Config.SettingsFile
import HostBinder.Proofs.Files.Writing
import HostBinder.Proofs.Hierarchy.Cycle
import HostBinder.Proofs.Hierarchy.Order
import HostBinder.Proofs.Injection.Assigning
import HostBinder.Proofs.Injection.Dispatching
import HostBinder.Proofs.Injection.Registrations
import HostBinder.Proofs.Marker.Acceptance
import HostBinder.Proofs.Marker.ConstantClashes
import HostBinder.Proofs.Marker.RecordedFields
import HostBinder.Proofs.Marker.Reemission
import HostBinder.Proofs.RoutedErrors.Listing
import HostBinder.Proofs.RoutedErrors.Merging
import HostBinder.Proofs.RoutedErrors.Routes
import HostBinder.Proofs.Schema.BrokenRules
import HostBinder.Proofs.Schema.Lookups
import HostBinder.Proofs.Schema.Registration
import HostBinder.Sample
import HostBinder.Version
