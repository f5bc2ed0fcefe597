import Mathlib.Algebra.GroupWithZero.Nat
import SchemaAtlas.Proofs.Diagram.DrawingText
import SchemaAtlas.Proofs.Schema.ForeignKeys
import SchemaAtlas.Proofs.Schema.Lines
/-!
The Mermaid text of a script. Names and types are brought down to allowed characters and labels are lines, so whatever
the script holds, its tables, columns and relationships are read back.
-/
namespace SchemaAtlas

/-- The ends of a relationship are columns of the schema, so its label is a line like their names. -/
theorem Script.isLine_label {script : String} {relationship : Relationship}
    (drawn : relationship ∈ (read script).relationships) : Text.IsLine relationship.toLink.label.toList := by
  obtain ⟨source, source_known, first, inside, target, target_known, second, also_inside, _, first_name, _,
    second_name⟩ := ends_of_mem drawn
  have first_line := ((singleLine_of_read source_known).columns first inside).name
  have second_line := ((singleLine_of_read target_known).columns second also_inside).name
  have between : Text.IsLine " → ".toList := by decide
  rw [Relationship.toLink, first_name, second_name, String.toList_append, String.toList_append]
  exact (first_line.append between).append second_line

namespace Mermaid

section Drawing

section Schema
variable {schema : Schema}

end Schema

end Drawing

end Mermaid
end SchemaAtlas
