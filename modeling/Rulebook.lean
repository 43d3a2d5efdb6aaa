import Rulebook.Log.Target
import Rulebook.Main
import Rulebook.Proofs.Blame
import Rulebook.Proofs.Containment
import Rulebook.Proofs.Contexts
import Rulebook.Proofs.Debugging
import Rulebook.Proofs.Decoding
import Rulebook.Proofs.Descent
import Rulebook.Proofs.Extending
import Rulebook.Proofs.Independence
import Rulebook.Proofs.Indices
import Rulebook.Proofs.Layering
import Rulebook.Proofs.Order
import Rulebook.Proofs.Overriding
import Rulebook.Proofs.Permanence
import Rulebook.Proofs.Placeholders
import Rulebook.Proofs.Publication
import Rulebook.Proofs.Regrouping
import Rulebook.Proofs.Rephrasing
import Rulebook.Proofs.Scopes
import Rulebook.Proofs.Sessions
import Rulebook.Proofs.Splitting
import Rulebook.Proofs.Transparency
import Rulebook.Proofs.Walking
import Rulebook.Proofs.Watching
import Rulebook.Settings.Given
