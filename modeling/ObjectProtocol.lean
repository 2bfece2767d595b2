import ObjectProtocol.Configuration
import ObjectProtocol.Proofs.Arguments.Parsing
import ObjectProtocol.Proofs.Attributes.Inheritance
import ObjectProtocol.Proofs.Attributes.Protection
import ObjectProtocol.Proofs.Boxes.Making
import ObjectProtocol.Proofs.Boxes.Policies
import ObjectProtocol.Proofs.Boxes.Reading
import ObjectProtocol.Proofs.Calls.Callbacks
import ObjectProtocol.Proofs.Calls.Limit
import ObjectProtocol.Proofs.Calls.Nesting
import ObjectProtocol.Proofs.Construction.Initializing
import ObjectProtocol.Proofs.Counters.Views
import ObjectProtocol.Proofs.Exceptions.Towers
import ObjectProtocol.Proofs.Identity
import ObjectProtocol.Proofs.Iteration.Iterables
import ObjectProtocol.Proofs.Iteration.Snapshots
import ObjectProtocol.Proofs.Modules.Exports
import ObjectProtocol.Proofs.Numbers.Equality
import ObjectProtocol.Proofs.Numbers.Ranges
import ObjectProtocol.Proofs.Random.Counting
import ObjectProtocol.Proofs.Sample.Constancy
import ObjectProtocol.Proofs.Sample.Origins
import ObjectProtocol.Proofs.Sample.Sums
import ObjectProtocol.Proofs.Sequences.Adding
import ObjectProtocol.Proofs.Subclasses.Transparency
import ObjectProtocol.Proofs.Text.Quoting
import ObjectProtocol.Proofs.Types.Declaring
import ObjectProtocol.Proofs.Types.Lasting
import ObjectProtocol.Proofs.Types.Registration
import ObjectProtocol.Proofs.Types.Subtyping
import ObjectProtocol.Record
import ObjectProtocol.Script
