import Sift.Dialect.MissingTable
import Sift.Proofs.Like

/-!
# Errors of missing tables in PostgreSQL

The driver's error of a server is asked for its SQLSTATE. The message of the server follows
in the chain as an error of its own, which is read like any other text, so that a message on a
relation that lacks something else counts as a missing table too.
-/
namespace Sift

/-- What starts with a character that a text lacks does not start in this text. -/
theorem cons_infix_append_iff {α : Type} {a : α} {word front text : List α} (lacks : a ∉ front) :
    a :: word <:+: front ++ text ↔ a :: word <:+: text := by
  induction front with
  | nil => rfl
  | cons b front ih =>
    obtain ⟨other, lacks⟩ := List.ne_and_not_mem_of_not_mem_cons lacks
    rw [List.cons_append, List.infix_cons_iff, ih lacks, List.cons_prefix_cons]
    exact or_iff_right fun both => other both.1

namespace Dialect

theorem mentions_iff {text part : String} : mentions text part = true ↔ part.toList <:+: text.toList :=
  Like.occursIn_iff _ _

/-- Whether a text has the SQLSTATE of an undefined table, or says that a relation does not exist. -/
def SaysMissing (text : String) : Prop :=
  "42P01".toList <:+: text.toList ∨ "relation".toList <:+: text.toList ∧ "does not exist".toList <:+: text.toList

instance (text : String) : Decidable (SaysMissing text) := inferInstanceAs (Decidable (_ ∨ _ ∧ _))

theorem textSaysMissing_postgres_iff {text : String} : postgres.textSaysMissing text = true ↔ SaysMissing text := by
  rw [textSaysMissing, Bool.or_eq_true, Bool.and_eq_true, mentions_iff, mentions_iff, mentions_iff]
  rfl

/-- The severity before a message of the server says nothing of a table. -/
theorem saysMissing_of_server_iff {message : String} : SaysMissing ("ERROR: " ++ message) ↔ SaysMissing message := by
  have same (c : Char) (word : List Char) (lacks : c ∉ "ERROR: ".toList) :
      c :: word <:+: ("ERROR: " ++ message).toList ↔ c :: word <:+: message.toList := by
    rw [String.toList_append, cons_infix_append_iff lacks]
  have state := same '4' "2P01".toList (by decide)
  have relation := same 'r' "elation".toList (by decide)
  have absent := same 'd' "oes not exist".toList (by decide)
  exact or_congr state (and_congr relation absent)

/-- Errors around a chain that say nothing of a table have no say. -/
theorem isTableMissing_append {outer chain : List ErrorLink} {d : Dialect}
    (silent : ∀ e ∈ outer, d.linkSaysMissing e = false) :
    d.isTableMissing (outer ++ chain) = d.isTableMissing chain := by
  have none_ : outer.any d.linkSaysMissing = false := by simpa using silent
  rw [isTableMissing, List.any_append, none_, Bool.false_or]
  rfl

/-- An error of a server is counted as a missing table by its SQLSTATE or by its message. -/
theorem isTableMissing_ofServer_iff {state message : String} :
    postgres.isTableMissing (ErrorLink.ofServer state message) = true ↔
      state = undefinedTable ∨ SaysMissing message := by
  have driver : postgres.linkSaysMissing (.driver "db error" (some state)) = true ↔ state = undefinedTable := by
    rw [linkSaysMissing, beq_iff_eq, Option.some_inj]
  have text : postgres.linkSaysMissing (.plain ("ERROR: " ++ message)) = true ↔ SaysMissing message :=
    textSaysMissing_postgres_iff.trans saysMissing_of_server_iff
  rw [isTableMissing, ErrorLink.ofServer, List.any_cons, List.any_cons, List.any_nil, Bool.or_false, Bool.or_eq_true,
    driver, text]

end Dialect

/-- An error of a PostgreSQL server counts as a missing table, whatever errors that say nothing of one it is wrapped
in, exactly if its SQLSTATE is that of an undefined table or its message says that one is missing. So the SQLSTATE
decides exactly if it is that of an undefined table or the message does not say so. -/
theorem server_errors_count_by_message {outer : List String} (silent : ∀ text ∈ outer, ¬Dialect.SaysMissing text)
    (state message : String) :
    let chain := outer.map ErrorLink.plain ++ ErrorLink.ofServer state message
    (Dialect.postgres.isTableMissing chain = true ↔ state = "42P01" ∨ Dialect.SaysMissing message) ∧
    ((Dialect.postgres.isTableMissing chain = true ↔ state = "42P01") ↔
      state = "42P01" ∨ ¬Dialect.SaysMissing message) := by
  intro chain
  have counted : Dialect.postgres.isTableMissing chain = true ↔ state = "42P01" ∨ Dialect.SaysMissing message := by
    rw [Dialect.isTableMissing_append, Dialect.isTableMissing_ofServer_iff, Dialect.undefinedTable]
    intro e member
    obtain ⟨text, among, rfl⟩ := List.mem_map.mp member
    exact Bool.eq_false_iff.mpr fun counts => silent text among (Dialect.textSaysMissing_postgres_iff.mp counts)
  exact ⟨counted, by rw [counted]; tauto⟩

/-- A duplicate key of a table whose errors are wrapped twice. -/
theorem server_errors_count_by_message_of_duplicate :
    let chain := ["import failed", "query failed"].map ErrorLink.plain ++
      ErrorLink.ofServer "23505" "duplicate key value violates unique constraint \"orders_pkey\""
    Dialect.postgres.isTableMissing chain = false := by
  intro chain
  have silent : ∀ text ∈ ["import failed", "query failed"], ¬Dialect.SaysMissing text := by decide +kernel
  rw [Bool.eq_false_iff, ne_eq, (server_errors_count_by_message silent _ _).1]
  decide +kernel

/-- A column that a table lacks, with the SQLSTATE of an undefined column, counts as a missing table. -/
theorem missing_column_counts_as_table :
    ¬Dialect.SaysMissing "query failed" ∧ "42703" ≠ Dialect.undefinedTable ∧
    Dialect.postgres.isTableMissing
      (["query failed"].map ErrorLink.plain ++
        ErrorLink.ofServer "42703" "column \"x\" of relation \"orders\" does not exist") = true := by
  decide +kernel

end Sift
