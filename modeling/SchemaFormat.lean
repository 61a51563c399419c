import SchemaFormat.Main
import SchemaFormat.Proofs.Blocks
import SchemaFormat.Proofs.Concatenation
import SchemaFormat.Proofs.DecodedLocator
import SchemaFormat.Proofs.Discovery
import SchemaFormat.Proofs.DistinctLocators
import SchemaFormat.Proofs.Outcomes
import SchemaFormat.Proofs.Refusals
import SchemaFormat.Proofs.Repetition
import SchemaFormat.Proofs.Respelling
import SchemaFormat.Proofs.Routing
import SchemaFormat.Proofs.ShownRequest
import SchemaFormat.Proofs.StandardInput
