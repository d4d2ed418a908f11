/-
This file is a small library of listings that are read page by page: a page asks for one row
more than it shows, and the row too many gives the cursor for the next page.

A listing is the list of its rows in the order of a key that no two rows share. What comes
after a cursor is then an end of the list. The row that gives the cursor is not shown on its
page, and it does not come after itself, so that a listing of more than one page loses it.
-/

import Mathlib.Data.List.Sort
import Mathlib.Order.Lattice

namespace Agora

/-- A listing. The rows stand in the order of their keys, a cursor for a row can be made, and
comparing with it is comparing with the key of the row. -/
structure Feed (Row Cursor Key : Type) [LinearOrder Key] where
  rows : List Row
  key : Row → Key
  cursorOf : Row → Option Cursor
  after : Cursor → Row → Bool
  sorted : rows.Pairwise fun first second => key first < key second
  cursor_some : ∀ row ∈ rows, ∃ cursor, cursorOf row = some cursor ∧
    ∀ other ∈ rows, after cursor other = true ↔ key row < key other

/-- The rows in the order of their keys. -/
def sortByKey {Row Key : Type} [LinearOrder Key] (key : Row → Key) (rows : List Row) : List Row :=
  rows.insertionSort fun first second => key first ≤ key second

theorem sorted_sortByKey {Row Key : Type} [LinearOrder Key] {key : Row → Key} {rows : List Row}
    (distinct : (rows.map key).Nodup) :
    (sortByKey key rows).Pairwise fun first second => key first < key second := by
  have : Std.Total fun first second : Row => key first ≤ key second := ⟨fun _ _ => le_total _ _⟩
  have : IsTrans Row fun first second => key first ≤ key second := ⟨fun _ _ _ => le_trans⟩
  have ordered : (sortByKey key rows).Pairwise fun first second => key first ≤ key second :=
    List.pairwise_insertionSort _ rows
  have apart : (sortByKey key rows).Pairwise fun first second => key first ≠ key second :=
    List.pairwise_map.mp (((List.perm_insertionSort _ rows).map key).nodup_iff.mpr distinct)
  exact ordered.imp₂ (fun _ _ le ne => lt_of_le_of_ne le ne) apart

namespace Feed

variable {Row Cursor Key : Type} [LinearOrder Key] (feed : Feed Row Cursor Key) (size : Nat)

/-- The rows after a cursor, as many as asked for. -/
def fetch (cursor : Option Cursor) (count : Nat) : List Row :=
  (feed.rows.filter fun row => cursor.all (feed.after · row)).take count

/-- The rows that are shown, and the cursor for the next page. -/
def page (cursor : Option Cursor) : Option (List Row × Option Cursor) :=
  let items := feed.fetch cursor (size + 1)
  if size < items.length then
    (items.getLast?.bind feed.cursorOf).map fun next => (items.dropLast, some next)
  else some (items, none)

/-- What the pages show from a cursor on, if they come to an end. -/
def walk : Nat → Option Cursor → Option (List Row)
  | 0, _ => none
  | fuel + 1, cursor => (feed.page size cursor).bind fun
    | (items, none) => some items
    | (items, some next) => (walk fuel (some next)).map (items ++ ·)

variable {feed size}

/-- What comes after a row is what comes after its cursor. -/
theorem filter_after {front tail : List Row} {row : Row} {cursor : Cursor}
    (split : feed.rows = front ++ row :: tail)
    (compares : ∀ other ∈ feed.rows,
      feed.after cursor other = true ↔ feed.key row < feed.key other) :
    feed.rows.filter (feed.after cursor) = tail := by
  have sorted := feed.sorted
  rw [List.filter_congr fun other member => Bool.eq_iff_iff.mpr ((compares other member).trans
    decide_eq_true_iff.symm)]
  rw [split, List.pairwise_append, List.pairwise_cons] at sorted
  rw [split, List.filter_append, List.filter_cons_of_neg (by simp), List.filter_eq_nil_iff.mpr,
    List.nil_append, List.filter_eq_self.mpr]
  · exact fun other member => decide_eq_true (sorted.2.1.1 other member)
  · intro other member
    simpa using (sorted.2.2 other member row List.mem_cons_self).le

section Page

variable {cursor : Option Cursor} {rest : List Row}
  (reads : feed.rows.filter (fun row => cursor.all (feed.after · row)) = rest)

include reads

theorem page_of_le (fits : rest.length ≤ size) : feed.page size cursor = some (rest, none) := by
  have fetched : feed.fetch cursor (size + 1) = rest := by
    rw [fetch, reads, List.take_of_length_le (Nat.le_succ_of_le fits)]
  simp only [page, fetched, if_neg (Nat.not_lt.mpr fits)]

/-- The row too many is not shown. -/
theorem page_of_lt {shown tail : List Row} {row : Row} {next : Cursor}
    (split : rest = shown ++ row :: tail) (full : shown.length = size)
    (cursorEq : feed.cursorOf row = some next) :
    feed.page size cursor = some (shown, some next) := by
  have fetched : feed.fetch cursor (size + 1) = shown ++ [row] := by
    rw [fetch, reads, split, ← full, List.take_length_add_append]
    rfl
  simp [page, fetched, full, cursorEq]

end Page

/-- From where the rest of the rows is read, the pages show all of it only if it fits one page. -/
theorem exists_walk (fuel : Nat) (cursor : Option Cursor) (front rest : List Row)
    (split : feed.rows = front ++ rest) (enough : rest.length < fuel)
    (reads : feed.rows.filter (fun row => cursor.all (feed.after · row)) = rest) :
    ∃ shown, feed.walk size fuel cursor = some shown ∧ shown.length ≤ rest.length ∧
      (shown = rest ↔ rest.length ≤ size) := by
  induction fuel generalizing cursor front rest with
  | zero => omega
  | succ fuel inductionHypothesis =>
    by_cases fits : rest.length ≤ size
    · refine ⟨rest, ?_, le_rfl, iff_of_true rfl fits⟩
      rw [walk, page_of_le reads fits]
      rfl
    · obtain ⟨row, tail, here⟩ := List.exists_cons_of_ne_nil
        (show rest.drop size ≠ [] by simpa using fits)
      have parts : rest = rest.take size ++ row :: tail := by rw [← here, List.take_append_drop]
      have full : (rest.take size).length = size := List.length_take_of_le (by omega)
      have length := congrArg List.length parts
      rw [List.length_append, full, List.length_cons] at length
      have whole : feed.rows = (front ++ rest.take size) ++ row :: tail := by
        rw [List.append_assoc, ← parts, split]
      obtain ⟨next, cursorEq, compares⟩ := feed.cursor_some row (whole ▸ by simp)
      obtain ⟨shown, walked, fewer, _⟩ := inductionHypothesis (some next)
        (front ++ rest.take size ++ [row]) tail (by rw [whole]; simp) (by omega)
        (filter_after whole compares)
      refine ⟨rest.take size ++ shown, ?_, ?_, iff_of_false (fun same => ?_) fits⟩
      · rw [walk, page_of_lt reads parts full cursorEq]
        exact congrArg (Option.map (rest.take size ++ ·)) walked
      · rw [List.length_append, full]
        omega
      · have lost := congrArg List.length same
        rw [List.length_append, full] at lost
        omega

/-- The pages come to an end, and show all rows exactly when they fit one page. -/
theorem walk_eq_rows_iff {fuel : Nat} (enough : feed.rows.length < fuel) :
    (feed.walk size fuel none).isSome = true ∧
      (feed.walk size fuel none = some feed.rows ↔ feed.rows.length ≤ size) := by
  obtain ⟨shown, walked, _, all⟩ := exists_walk fuel none [] feed.rows rfl enough (by simp)
  rw [walked, Option.some_inj]
  exact ⟨rfl, all⟩

end Feed

end Agora
