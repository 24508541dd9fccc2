import Mathlib.Algebra.Ring.Parity
import SqlDraft.Proofs.FirstLiteral

/-!
# Literals of the quoters

The literal that a quoter writes ends itself: an engine reads it back with its content and leaves
whatever follows unread, unless that starts with a quote.  So different contents have different
literals.

A MySQL literal can also be told from outside by counting backslashes.  What is written for a
character ends in a backslash only if it is two of them, so behind written characters their number
is even, and the backslash of a written quote makes it odd.
-/

namespace SqlDraft

/-- How many backslashes a text ends in. -/
def closingBackslashes (text : List Char) : Nat := (text.reverse.takeWhile (· == '\\')).length

@[simp]
theorem closingBackslashes_append_backslash (text : List Char) :
    closingBackslashes (text ++ ['\\']) = closingBackslashes text + 1 := by
  simp [closingBackslashes]

theorem closingBackslashes_append_of_ne (text : List Char) {c : Char} (other : c ≠ '\\') :
    closingBackslashes (text ++ [c]) = 0 := by
  simp [closingBackslashes, other]

namespace Quoter

/-- What is written for a character is two backslashes, or it ends in another character. -/
theorem escapeBackslash_cases (c : Char) :
    escapeBackslash c = ['\\', '\\'] ∨
      ∃ front last, escapeBackslash c = front ++ [last] ∧ last ≠ '\\' := by
  unfold escapeBackslash
  split_ifs with backslash
  · exact .inl rfl
  all_goals right
  · exact ⟨['\\'], '\'', rfl, by decide⟩
  · exact ⟨['\\'], '0', rfl, by decide⟩
  · exact ⟨['\\'], 'n', rfl, by decide⟩
  · exact ⟨['\\'], 'r', rfl, by decide⟩
  · exact ⟨['\\'], 'Z', rfl, by decide⟩
  · exact ⟨[], c, rfl, backslash⟩

theorem even_closingBackslashes (content : List Char) :
    Even (closingBackslashes (content.flatMap escapeBackslash)) := by
  induction content using List.reverseRecOn with
  | nil => decide
  | append_singleton content c ih =>
      rw [List.flatMap_append, List.flatMap_singleton]
      obtain written | ⟨front, last, written, other⟩ := escapeBackslash_cases c
      · rw [written, List.append_cons, closingBackslashes_append_backslash,
          closingBackslashes_append_backslash]
        exact ih.add_one.add_one
      · rw [written, ← List.append_assoc, closingBackslashes_append_of_ne _ other]
        exact Even.zero

theorem eq_quote_of_mem_escapeBackslash {c : Char} (mem : '\'' ∈ escapeBackslash c) : c = '\'' := by
  by_contra other
  unfold escapeBackslash at mem
  split_ifs at mem
  all_goals simp [Ne.symm other] at mem

theorem eq_backslash_of_escapeBackslash {c : Char} {front behind : List Char}
    (written : escapeBackslash c = front ++ '\'' :: behind) : front = ['\\'] := by
  have mem : '\'' ∈ escapeBackslash c := by simp [written]
  obtain rfl := eq_quote_of_mem_escapeBackslash mem
  have pair : ['\\', '\''] = front ++ '\'' :: behind := written
  match front with
  | [] => exact absurd (List.cons.inj pair).1 (by decide)
  | [first] => exact congrArg (fun c => [c]) (List.cons.inj pair).1.symm
  | _ :: _ :: _ => simp at pair

/-- Every quote among written characters stands behind an odd number of backslashes. -/
theorem odd_closingBackslashes {content before behind : List Char}
    (written : content.flatMap escapeBackslash = before ++ '\'' :: behind) :
    Odd (closingBackslashes before) := by
  induction content using List.reverseRecOn generalizing behind with
  | nil => simp at written
  | append_singleton content c ih =>
      rw [List.flatMap_append, List.flatMap_singleton] at written
      obtain ⟨front, beforeEq, lastEq⟩ | ⟨rest, contentEq, restEq⟩ :=
        List.append_eq_append_iff.mp written
      · -- The quote is written for the last character.
        rw [beforeEq, eq_backslash_of_escapeBackslash lastEq, closingBackslashes_append_backslash]
        exact (even_closingBackslashes content).add_one
      · -- The quote is written for an earlier character.
        cases rest with
        | nil =>
            have bare : escapeBackslash c = [] ++ '\'' :: behind := restEq.symm
            exact absurd (eq_backslash_of_escapeBackslash bare) (List.cons_ne_nil _ _).symm
        | cons first rest =>
            obtain rfl := (List.cons.inj restEq).1
            exact ih contentEq

theorem ne_of_mem_escapeBackslash {c written : Char} (mem : written ∈ escapeBackslash c) :
    written ≠ '\x00' ∧ written ≠ '\n' ∧ written ≠ '\r' ∧ written ≠ '\x1a' := by
  unfold escapeBackslash at mem
  split_ifs at mem with _ _ null feed carriage substitute
  all_goals simp only [List.mem_cons, List.not_mem_nil, or_false] at mem
  case neg =>
    rw [mem]
    exact ⟨null, feed, carriage, substitute⟩
  all_goals
    rcases mem with rfl | rfl
    all_goals decide

/-- The MySQL literal for a text is read back as this text whatever follows but a quote, and what
follows is left.  Nothing in it is a raw control character that an engine would interpret, and
between its outer quotes every quote stands behind an odd number of backslashes. -/
theorem mysql_literal_delimited (content : String) :
    ∃ literal body, mysql.quoteText content = .ok (.text literal) ∧
      literal.toList = '\'' :: body ++ ['\''] ∧
      (∀ rest : String, rest.toList.head? ≠ some '\'' →
        Engine.mysql.literal? (literal ++ rest) = some (content, rest)) ∧
      (∀ c ∈ literal.toList, c ≠ '\x00' ∧ c ≠ '\n' ∧ c ≠ '\r' ∧ c ≠ '\x1a') ∧
      ∀ before behind, body = before ++ '\'' :: behind → Odd (closingBackslashes before) := by
  refine ⟨Engine.mysql.quote content, content.toList.flatMap escapeBackslash, rfl,
    String.toList_ofList, ?_, ?_, ?_⟩
  · exact fun rest apart => Engine.literal?_quote_append content apart
  · intro c mem
    have parts : c = '\'' ∨ c ∈ content.toList.flatMap escapeBackslash := by
      simpa [Engine.quote, enclose, Engine.escape, or_comm] using mem
    obtain rfl | written := parts
    · decide
    · obtain ⟨original, -, writtenFor⟩ := List.mem_flatMap.mp written
      exact ne_of_mem_escapeBackslash writtenFor
  · exact fun before behind written => odd_closingBackslashes written

/-- A text that ends in a backslash and a quote, both of which are written behind a backslash. -/
theorem mysql_literal_trailing_quote :
    mysql.quoteText "50%\\'" = .ok (.text "'50%\\\\\\''") ∧
      Engine.mysql.literal? ("'50%\\\\\\''" ++ " OR '1'") = some ("50%\\'", " OR '1'") ∧
      Odd (closingBackslashes ['5', '0', '%', '\\', '\\', '\\']) := by
  obtain ⟨literal, body, quoted, parts, read, -, odd⟩ := mysql_literal_delimited "50%\\'"
  have made : mysql.quoteText "50%\\'" = .ok (.text "'50%\\\\\\''") := rfl
  obtain rfl := Value.text.inj (Except.ok.inj (quoted.symm.trans made))
  have whole : '\'' :: body ++ ['\''] =
      '\'' :: ['5', '0', '%', '\\', '\\', '\\', '\''] ++ ['\''] := parts.symm.trans (by decide)
  obtain rfl := (List.cons.inj (List.append_cancel_right whole)).2
  exact ⟨made, read _ (by decide), odd _ [] rfl⟩

/-- The standard literal for a value is read back as the text of the value whatever follows but a
quote, and what follows is left.  So two values have the same literal exactly if they have the same
text. -/
theorem ansi_literal_delimited (value : Value) :
    ∃ literal, ansi.quote value = .ok (.text literal) ∧
      (∀ rest : String, rest.toList.head? ≠ some '\'' →
        Engine.standard.literal? (literal ++ rest) = some (value.content, rest)) ∧
      ∀ other, ansi.quote value = ansi.quote other ↔ value.content = other.content := by
  have read (content rest : String) (apart : rest.toList.head? ≠ some '\'') :
      Engine.standard.literal? (Engine.standard.quote content ++ rest) = some (content, rest) :=
    Engine.literal?_quote_append content apart
  refine ⟨Engine.standard.quote value.content, rfl, read value.content, fun other => ?_⟩
  constructor
  · intro same
    have literals : Engine.standard.quote value.content = Engine.standard.quote other.content :=
      Value.text.inj (Except.ok.inj same)
    have found := read value.content "" (by decide)
    rw [literals, read other.content "" (by decide)] at found
    exact (Prod.mk.inj (Option.some.inj found)).1.symm
  · intro same
    rw [quote, quote, same]

/-- A run of quotes is one literal; the number one and the truth value share theirs. -/
theorem ansi_literal_quotes :
    ansi.quote (.text "''") = .ok (.text "''''''") ∧
      Engine.standard.literal? ("''''''" ++ ", ''") = some ("''", ", ''") ∧
      ansi.quote (.int 1) = ansi.quote (.bool true) := by
  obtain ⟨literal, quoted, read, -⟩ := ansi_literal_delimited (.text "''")
  have made : ansi.quote (.text "''") = .ok (.text "''''''") := rfl
  obtain rfl := Value.text.inj (Except.ok.inj (quoted.symm.trans made))
  obtain ⟨-, -, -, same⟩ := ansi_literal_delimited (.int 1)
  exact ⟨made, read _ (by decide), (same (.bool true)).mpr rfl⟩

end Quoter
end SqlDraft
