import Mathlib.Data.List.TakeWhile
import SqlDraft.Proofs.Literal

/-!
# Peeling texts

Texts peel off if no two of them can be continued to the same text, as long as the continuations are
of a given kind: what has been written first, and how it goes on, can then be told from the text as
a whole.  Runs of characters peel off where the run stops, literals peel off in front of anything
but a quote, and lists peel off item by item.
-/

namespace SqlDraft

/-- A continuation that does not start with a selected character. -/
def Stops (select : Char → Bool) (rest : List Char) : Prop := ∀ c ∈ rest.head?, select c = false

@[simp]
theorem stops_nil (select : Char → Bool) : Stops select [] := by
  simp [Stops]

@[simp]
theorem stops_cons (select : Char → Bool) (c : Char) (rest : List Char) :
    Stops select (c :: rest) ↔ select c = false := by
  simp [Stops]

instance (select : Char → Bool) : (rest : List Char) → Decidable (Stops select rest)
  | [] => isTrue (stops_nil select)
  | c :: rest => decidable_of_iff (select c = false) (stops_cons select c rest).symm

theorem stops_dropWhile (select : Char → Bool) (text : List Char) :
    Stops select (text.dropWhile select) := by
  intro c first
  have head := List.head?_dropWhile_not select text
  rw [Option.mem_def.mp first] at head
  simpa using head

theorem takeWhile_append_of_stops {select : Char → Bool} {run rest : List Char}
    (all : ∀ c ∈ run, select c = true) (stops : Stops select rest) :
    (run ++ rest).takeWhile select = run := by
  rw [List.takeWhile_append_of_pos all]
  cases rest with
  | nil => simp
  | cons c rest => simp [(stops_cons select c rest).mp stops]

theorem dropWhile_append_of_stops {select : Char → Bool} {run rest : List Char}
    (all : ∀ c ∈ run, select c = true) (stops : Stops select rest) :
    (run ++ rest).dropWhile select = rest := by
  have whole := List.takeWhile_append_dropWhile (p := select) (l := run ++ rest)
  rw [takeWhile_append_of_stops all stops] at whole
  exact List.append_cancel_left whole

theorem Text.stops_of_trim {text : String} (trimmed : trim text = text) :
    Stops isBlank text.toList.reverse := by
  rw [← trimmed, toList_trim, stripWhile, dropEndWhile, List.reverse_reverse]
  exact stops_dropWhile _ _

/-- Valid items and their continuations can be told from the text of an item and what follows. -/
def Peels {α : Type} (text : α → List Char) (valid : α → Prop) (follow : List Char → Prop) : Prop :=
  ∀ ⦃left right leftRest rightRest⦄, valid left → valid right → follow leftRest → follow rightRest →
    text left ++ leftRest = text right ++ rightRest → left = right ∧ leftRest = rightRest

/-- Runs of selected characters peel off where they stop. -/
theorem peels_run (select : Char → Bool) :
    Peels id (fun run => ∀ c ∈ run, select c = true) (Stops select) := by
  intro left right leftRest rightRest leftRun rightRun leftStops rightStops same
  have runs : left = right := by
    rw [← takeWhile_append_of_stops leftRun leftStops,
      ← takeWhile_append_of_stops rightRun rightStops]
    exact congrArg (List.takeWhile select) same
  subst runs
  exact ⟨rfl, List.append_cancel_left same⟩

namespace Peels

variable {α : Type} {text : α → List Char} {valid : α → Prop} {follow last : List Char → Prop}

/-- Items peel off one after the other if no item looks like the end of the list. -/
theorem listed (peels : Peels text valid follow)
    (apart : ∀ item tail rest, valid item → last rest → text item ++ tail ≠ rest)
    (continued : ∀ (items : List α) (rest : List Char), (∀ item ∈ items, valid item) → last rest →
      follow (items.flatMap text ++ rest)) :
    Peels (fun items : List α => items.flatMap text) (fun items => ∀ item ∈ items, valid item)
      last := by
  intro left right leftRest rightRest leftValid rightValid leftLast rightLast same
  dsimp only at same
  induction left generalizing right with
  | nil =>
      cases right with
      | nil => exact ⟨rfl, same⟩
      | cons item items =>
          rw [List.flatMap_cons, List.append_assoc] at same
          exact absurd same.symm (apart item _ _ (rightValid item List.mem_cons_self) leftLast)
  | cons item items ih =>
      cases right with
      | nil =>
          rw [List.flatMap_cons, List.append_assoc] at same
          exact absurd same (apart item _ _ (leftValid item List.mem_cons_self) rightLast)
      | cons other others =>
          obtain ⟨first, leftItems⟩ := List.forall_mem_cons.mp leftValid
          obtain ⟨second, rightItems⟩ := List.forall_mem_cons.mp rightValid
          rw [List.flatMap_cons, List.flatMap_cons, List.append_assoc, List.append_assoc] at same
          obtain ⟨rfl, rest⟩ := peels first second (continued _ _ leftItems leftLast)
            (continued _ _ rightItems rightLast) same
          obtain ⟨rfl, behind⟩ := ih leftItems rightItems rest
          exact ⟨rfl, behind⟩

theorem intercalate_cons (separator first : List Char) (rest : List (List Char)) :
    separator.intercalate (first :: rest) = first ++ rest.flatMap (separator ++ ·) := by
  induction rest generalizing first with
  | nil => simp
  | cons next rest ih =>
      rw [List.intercalate_cons_cons, ih, List.flatMap_cons]
      simp [List.append_assoc]

/-- Separated items peel off if the end of the list does not look like the separator. -/
theorem separated {separator : List Char} (peels : Peels text valid follow)
    (between : ∀ tail, follow (separator ++ tail)) (behind : ∀ rest, last rest → follow rest)
    (apart : ∀ tail rest, last rest → separator ++ tail ≠ rest) :
    Peels (fun items : List α => separator.intercalate (items.map text))
      (fun items => items ≠ [] ∧ ∀ item ∈ items, valid item) last := by
  have continued (items : List α) (rest : List Char) (ends : last rest) :
      follow (items.flatMap (fun item => separator ++ text item) ++ rest) := by
    cases items with
    | nil => exact behind rest ends
    | cons item items =>
        rw [List.flatMap_cons, List.append_assoc, List.append_assoc]
        exact between _
  have item : Peels (fun item => separator ++ text item) valid follow := by
    intro left right leftRest rightRest leftValid rightValid leftFollow rightFollow same
    rw [List.append_assoc, List.append_assoc] at same
    exact peels leftValid rightValid leftFollow rightFollow (List.append_cancel_left same)
  have tails : Peels (fun items : List α => items.flatMap fun item => separator ++ text item)
      (fun items => ∀ item ∈ items, valid item) last := by
    apply item.listed
    · intro item tail rest _ ends
      rw [List.append_assoc]
      exact apart _ rest ends
    · exact fun items rest _ ends => continued items rest ends
  intro left right leftRest rightRest leftValid rightValid leftLast rightLast same
  obtain ⟨first, left, rfl⟩ := List.exists_cons_of_ne_nil leftValid.1
  obtain ⟨second, right, rfl⟩ := List.exists_cons_of_ne_nil rightValid.1
  obtain ⟨firstValid, leftItems⟩ := List.forall_mem_cons.mp leftValid.2
  obtain ⟨secondValid, rightItems⟩ := List.forall_mem_cons.mp rightValid.2
  simp only [List.map_cons, intercalate_cons, List.flatMap_map, List.append_assoc] at same
  obtain ⟨rfl, rest⟩ := peels firstValid secondValid (continued _ _ leftLast)
    (continued _ _ rightLast) same
  obtain ⟨rfl, behind⟩ := tails leftItems rightItems leftLast rightLast rest
  exact ⟨rfl, behind⟩

end Peels

namespace Engine

variable (engine : Engine)

theorem peels_escape : Peels engine.escape (fun _ => True) (fun _ => True) := by
  intro left right leftRest rightRest _ _ _ _ same
  cases engine with
  | standard =>
      simp only [escape, Quoter.escapeQuote] at same
      split_ifs at same <;> grind
  | mysql =>
      simp only [escape, Quoter.escapeBackslash] at same
      split_ifs at same <;> grind

theorem head?_of_escape {c : Char} {rest tail : List Char}
    (quote : engine.escape c ++ rest = '\'' :: tail) : tail.head? = some '\'' := by
  cases engine with
  | standard =>
      simp only [escape, Quoter.escapeQuote] at quote
      split_ifs at quote with same
      · obtain ⟨-, rfl⟩ := List.cons.inj quote
        rfl
      · exact absurd (List.cons.inj quote).1 same
  | mysql =>
      simp only [escape, Quoter.escapeBackslash] at quote
      split_ifs at quote <;> simp_all

theorem peels_quote :
    Peels (fun content => (engine.quote content).toList) (fun _ => True)
      (fun rest => rest.head? ≠ some '\'') := by
  have inner (left right leftRest rightRest : List Char) (leftEnds : leftRest.head? ≠ some '\'')
      (rightEnds : rightRest.head? ≠ some '\'')
      (same : left.flatMap engine.escape ++ '\'' :: leftRest =
        right.flatMap engine.escape ++ '\'' :: rightRest) :
      left = right ∧ leftRest = rightRest := by
    induction left generalizing right with
    | nil =>
        cases right with
        | nil => exact ⟨rfl, (List.cons.inj same).2⟩
        | cons d right =>
            rw [List.flatMap_cons, List.append_assoc] at same
            exact absurd (engine.head?_of_escape same.symm) leftEnds
    | cons c left ih =>
        cases right with
        | nil =>
            rw [List.flatMap_cons, List.append_assoc] at same
            exact absurd (engine.head?_of_escape same) rightEnds
        | cons d right =>
            rw [List.flatMap_cons, List.flatMap_cons, List.append_assoc, List.append_assoc] at same
            obtain ⟨rfl, rest⟩ := engine.peels_escape trivial trivial trivial trivial same
            obtain ⟨rfl, behind⟩ := ih right rest
            exact ⟨rfl, behind⟩
  intro left right leftRest rightRest _ _ leftEnds rightEnds same
  simp only [quote, Quoter.enclose, String.toList_ofList, List.cons_append, List.append_assoc,
    List.nil_append] at same
  obtain ⟨contents, rests⟩ := inner _ _ _ _ leftEnds rightEnds (List.cons.inj same).2
  exact ⟨String.toList_inj.mp contents, rests⟩

end Engine
end SqlDraft
