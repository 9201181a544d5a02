import CrateGraph.Metadata
import CrateGraph.Proofs.Decode

/-!
# The version gate

The version of a document is looked at twice: under the key `version` before the document
is decoded, and as a field of it when it is. A document written as a table supplies both
from one entry. A document written as a list has no keys, so nothing is found before it is
decoded, and the number in the place of its version is read but compared with nothing.

## Main results

* `version_of_document` — every decoded document supplies a version.
* `parse_version` — which outputs are accepted, and which are refused for their version.
* `not_version_listed` — an output that is accepted with another version.
-/

namespace CrateGraph.Metadata

open Decode Fields

/-! ## The version that a document supplies -/

/-- A decoded document supplies a version, as a table or as a list. -/
theorem version_of_document {f : Format} {v : Value} {w : Workspace}
    (h : document f v = .ok w) :
    ∃ found : Nat, found < wordLimit ∧ v.field? "version" 7 = some (.int found) := by
  obtain ⟨r, hr, -, hread⟩ := (record_ok_iff _ _ f v w).1 h
  obtain ⟨-, found, hversion⟩ := (read_seqLeft_ok_iff _ _ w).1 hread
  obtain ⟨x, hx, hn⟩ := (read_required_ok_iff _ _ found).1 hversion
  obtain ⟨hlt, rfl⟩ := (natural_ok_iff _ _ _ _ found).1 hn
  refine ⟨found, hlt, ?_⟩
  rw [Value.field?, hr]
  exact hx

/-- A tree that decodes to a document is a table or a list. -/
theorem table_or_list_of_document {f : Format} {v : Value} {w : Workspace}
    (h : document f v = .ok w) :
    (∃ entries, v = .table entries) ∨ ∃ items, v = .list items := by
  obtain ⟨r, hr, -⟩ := (record_ok_iff _ _ f v w).1 h
  cases v with
  | table entries => exact .inl ⟨entries, rfl⟩
  | list items => exact .inr ⟨items, rfl⟩
  | _ => cases hr

/-! ## The version that is looked at first -/

theorem statedVersion?_eq_some_iff (v : Value) (found : Nat) :
    statedVersion? v = some found ↔
      found < wordLimit ∧ ∃ entries, v = .table entries ∧
        entries.lookup "version" = some (.int found) := by
  cases v with
  | table entries =>
      simp only [statedVersion?, Value.entry?, Value.table.injEq, exists_eq_left']
      cases entries.lookup "version" with
      | none => simp
      | some x =>
          cases x with
          | int n =>
              by_cases hn : 0 ≤ n ∧ n < wordLimit
              · simp only [if_pos hn, Option.some.injEq, Value.int.injEq]
                omega
              · simp only [if_neg hn, reduceCtorEq, Option.some.injEq, Value.int.injEq, false_iff]
                omega
          | _ => simp
  | _ => simp [statedVersion?, Value.entry?]

theorem ofValue_ok_iff (expected : Nat) (v : Value) (w : Workspace) :
    ofValue expected v = .ok w ↔
      document .json v = .ok w ∧ ∀ found, statedVersion? v = some found → found = expected := by
  unfold ofValue
  cases statedVersion? v with
  | none => simp [Success.mapError_iff]
  | some found =>
      by_cases h : found = expected
      · simp [h, Success.mapError_iff]
      · simp [h]

/-- A document is refused for its version exactly if it states another one. -/
theorem ofValue_error_version_iff (expected : Nat) (v : Value) (found wanted : Nat) :
    ofValue expected v = .error (.version found wanted) ↔
      wanted = expected ∧ found ≠ expected ∧ statedVersion? v = some found := by
  have hdecoded : (document .json v).mapError Error.document ≠
      .error (.version found wanted) := by
    cases document .json v <;> simp [Except.mapError]
  unfold ofValue
  cases statedVersion? v with
  | none => simpa using hdecoded
  | some stated =>
      by_cases h : stated = expected
      · simp only [if_pos h, hdecoded, Option.some.injEq, false_iff]
        rintro ⟨-, hne, rfl⟩
        exact hne h
      · simp only [if_neg h, Except.error.injEq, Error.version.injEq, Option.some.injEq]
        constructor
        · rintro ⟨rfl, rfl⟩
          exact ⟨rfl, h, rfl⟩
        · rintro ⟨rfl, -, rfl⟩
          exact ⟨rfl, rfl⟩

/-- What a decoded document states is the version that it supplies, unless it is a list. -/
theorem statedVersion_of_document {v : Value} {w : Workspace} {found : Nat}
    (h : document .json v = .ok w) (hfound : v.field? "version" 7 = some (.int found)) :
    statedVersion? v = some found ∨ ∃ items, v = .list items := by
  rcases table_or_list_of_document h with ⟨entries, rfl⟩ | hlist
  · obtain ⟨n, hlt, hn⟩ := version_of_document h
    have hsame : n = found := by simpa [hn] using hfound
    exact .inl ((statedVersion?_eq_some_iff _ found).2 ⟨hsame ▸ hlt, entries, rfl, hfound⟩)
  · exact .inr hlist

/-- A document is accepted exactly if it decodes and the version that it supplies is the
expected one, or it is written as a list. -/
theorem ofValue_ok_iff_version (expected : Nat) (v : Value) (w : Workspace) :
    ofValue expected v = .ok w ↔
      document .json v = .ok w ∧ ∃ found : Nat, v.field? "version" 7 = some (.int found) ∧
        (found = expected ∨ ∃ items, v = .list items) := by
  rw [ofValue_ok_iff]
  refine and_congr_right fun hdoc => ⟨fun h => ?_, ?_⟩
  · obtain ⟨found, -, hfound⟩ := version_of_document hdoc
    refine ⟨found, hfound, ?_⟩
    exact (statedVersion_of_document hdoc hfound).imp_left (h found)
  · rintro ⟨found, hfound, hgate⟩ stated hstated
    obtain ⟨-, entries, rfl, hlookup⟩ := (statedVersion?_eq_some_iff _ stated).1 hstated
    have hsame : stated = found := by
      have hboth : some (Value.int stated) = some (.int found) := hlookup.symm.trans hfound
      simpa using hboth
    rcases hgate with rfl | ⟨items, hitems⟩
    · exact hsame
    · cases hitems

/-! ## Outputs -/

/-- An output is accepted exactly if the document in it decodes and supplies the expected
version, or is written as a list. It is refused for its version exactly if it is a table
with another 64-bit number under the key, whatever else is in it. -/
theorem parse_version (bytes : Bytes) (expected : Nat) :
    (∀ w, parse bytes expected = .ok w ↔
      ∃ v, Json.parse bytes = .ok v ∧ document .json v = .ok w ∧
        ∃ found : Nat, v.field? "version" 7 = some (.int found) ∧
          (found = expected ∨ ∃ items, v = .list items)) ∧
    ∀ found wanted, parse bytes expected = .error (.version found wanted) ↔
      wanted = expected ∧ found ≠ expected ∧ found < wordLimit ∧
        ∃ entries, Json.parse bytes = .ok (.table entries) ∧
          entries.lookup "version" = some (.int found) := by
  unfold parse
  constructor
  · intro w
    simp only [Success.bind_iff, Success.mapError_iff, ofValue_ok_iff_version]
  · intro found wanted
    cases Json.parse bytes with
    | error e => simp [Except.mapError, bind, Except.bind]
    | ok v =>
        show ofValue expected v = _ ↔ _
        rw [ofValue_error_version_iff, statedVersion?_eq_some_iff]
        simp only [Except.ok.injEq]

/-- A document of version 2, written as a list. -/
def listedDocument : Bytes := Text.toBytes "[[],[],null,null,\"/ws\",\"/ws/target\",null,2]"

/-- The gate for version 1 lets it pass. -/
theorem not_version_listed :
    ∃ v w, Json.parse listedDocument = .ok v ∧ parse listedDocument 1 = .ok w ∧
      v.field? "version" 7 = some (.int 2) :=
  ⟨.list [.list [], .list [], .null, .null, .text "/ws", .text "/ws/target", .null, .int 2],
    .empty, by decide +kernel, by decide +kernel, rfl⟩

end CrateGraph.Metadata
