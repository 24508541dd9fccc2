import SqlDraft.Proofs.FirstLiteral
import SqlDraft.Quoter.Dialect

/-!
# Literals of the MySQL dialect

The quoter of a dialect doubles the quote, and for some drivers the percent sign, which the driver
reads back as one.  It leaves the backslash alone.  To a MySQL engine a backslash is an escape, so
such a literal is read back with its content exactly if every backslash of the content stands in
front of a wildcard, where it stands for itself.  Otherwise the engine finds another content, and
a backslash in front of a quote lets the content end its literal.
-/

namespace SqlDraft

namespace Text

theorem replaceFrom_cons_of_ne {first c : Char} (pattern replacement rest : List Char)
    (other : c ≠ first) :
    replaceFrom (first :: pattern) replacement 0 (c :: rest) =
      c :: replaceFrom (first :: pattern) replacement 0 rest := by
  rw [replaceFrom_cons, if_neg (by simp [List.isPrefixOf, other.symm])]

end Text

namespace Dialect

/-- What a driver sends for a text in which the percent sign is written twice. -/
def sent (text : String) : String := Text.replaceAll text "%%" "%"

/-- The driver takes back what a dialect does to percent signs, and only the quotes stay doubled. -/
theorem sent_enclose {dialect : Dialect} (doubles : dialect.doublesPercent = true)
    (content : String) :
    sent (Quoter.enclose dialect.escape content) = Quoter.enclose Quoter.escapeQuote content := by
  have inner (characters : List Char) :
      Text.replaceFrom ['%', '%'] ['%'] 0 (characters.flatMap dialect.escape ++ ['\'']) =
        characters.flatMap Quoter.escapeQuote ++ ['\''] := by
    induction characters with
    | nil => rfl
    | cons c characters ih =>
        rw [List.flatMap_cons, List.flatMap_cons, List.append_assoc, List.append_assoc, ← ih]
        by_cases percent : c = '%'
        · rw [percent]
          simp only [escape, doubles, and_self, if_true]
          exact congrArg ('%' :: ·) (Text.replaceFrom_skip ['%', '%'] ['%'] ['%'] _)
        · by_cases quote : c = '\''
          · simp [escape, Quoter.escapeQuote, quote, Text.replaceFrom_cons_of_ne]
          · simp [escape, Quoter.escapeQuote, percent, quote, Text.replaceFrom_cons_of_ne]
  apply String.toList_inj.mp
  simp [sent, Text.replaceAll, Quoter.enclose, Text.replaceFrom_cons_of_ne, inner]

end Dialect

/-- Every backslash of a text stands directly in front of a wildcard. -/
def backslashesGuarded : List Char → Bool
  | [] => true
  | c :: rest =>
      (c != '\\' || rest.head? == some '%' || rest.head? == some '_') && backslashesGuarded rest

theorem backslashesGuarded_cons_of_ne {c : Char} {rest : List Char} (other : c ≠ '\\') :
    backslashesGuarded (c :: rest) = backslashesGuarded rest := by
  simp [backslashesGuarded, other]

theorem unescape_eq_singleton {c : Char} (other : c ≠ '\\') (bare : ¬(c = '%' ∨ c = '_')) :
    ∃ read, unescape c = [read] ∧ read ≠ '\\' := by
  unfold unescape
  split_ifs
  all_goals exact ⟨_, rfl, by first | decide | exact other⟩

theorem length_flatMap_escapeQuote (content : List Char) :
    (content.flatMap Quoter.escapeQuote).length = writtenLength content := by
  induction content with
  | nil => rfl
  | cons c content ih =>
      have single : (Quoter.escapeQuote c).length = writtenLength [c] := by
        by_cases quote : c = '\'' <;> simp [Quoter.escapeQuote, writtenLength, quote]
      rw [List.flatMap_cons, List.length_append, ih, single, ← writtenLength_append,
        List.singleton_append]

namespace Engine

variable {written content rest : List Char}

theorem finish_escaping_wildcard
    (wildcard : content.head? = some '%' ∨ content.head? = some '_') (behind : List Char) :
    mysql.finish (.escaping written) (content.flatMap Quoter.escapeQuote ++ behind) =
      mysql.finish (.inside (written ++ ['\\']))
        (content.flatMap Quoter.escapeQuote ++ behind) := by
  cases content with
  | nil => simp at wildcard
  | cons c content =>
      have first : c = '%' ∨ c = '_' := by simpa using wildcard
      have read : mysql.read ⟨[], .escaping written⟩ c =
          mysql.read ⟨[], .inside (written ++ ['\\'])⟩ c := by
        obtain rfl | rfl := first <;> simp [Engine.read, unescape, isEscape]
      have alone : Quoter.escapeQuote c = [c] := by
        obtain rfl | rfl := first <;> rfl
      simp only [List.flatMap_cons, alone, List.cons_append, List.nil_append, finish, read]

theorem finish_escaping_ne (written rest : List Char)
    (bare : ¬(content.head? = some '%' ∨ content.head? = some '_')) :
    mysql.finish (.escaping written) (content.flatMap Quoter.escapeQuote ++ '\'' :: rest) ≠
      some (String.ofList (written ++ '\\' :: content), rest) := by
  intro finished
  -- What the character behind the backslash stands for is found in the place of the backslash.
  have lost {c read : Char} {text : List Char}
      (split : content.flatMap Quoter.escapeQuote ++ '\'' :: rest = c :: text)
      (known : unescape c = [read]) (other : read ≠ '\\') : False := by
    rw [split, finish_escaping, known] at finished
    have starts := (prefix_and_spent_of_finish finished).1
    rw [Mode.content, String.toList_ofList, List.prefix_append_right_inj] at starts
    simp [other] at starts
  cases content with
  | nil => exact lost rfl rfl (by decide)
  | cons c content =>
      by_cases backslash : c = '\\'
      · -- Two backslashes are read as one, so less is found than the content.
        have split : (c :: content).flatMap Quoter.escapeQuote ++ '\'' :: rest =
            '\\' :: (content.flatMap Quoter.escapeQuote ++ '\'' :: rest) := by
          simp [backslash, Quoter.escapeQuote]
        rw [split, finish_escaping] at finished
        have spent := (prefix_and_spent_of_finish finished).2
        rw [Mode.spent, String.toList_ofList, backslash, List.append_cons, List.append_cons]
          at spent
        simp only [writtenLength_append, List.length_append, List.length_cons,
          length_flatMap_escapeQuote] at spent
        have single : writtenLength ['\\'] = 1 := by decide
        have same : writtenLength (unescape '\\') = 1 := by decide
        omega
      · obtain ⟨read, known, other⟩ := unescape_eq_singleton backslash (by simpa using bare)
        by_cases quote : c = '\''
        · exact lost (by rw [quote]; rfl) known other
        · exact lost (by simp only [List.flatMap_cons, Quoter.escapeQuote, quote]; rfl) known other

/-- A text with doubled quotes is read back exactly if its backslashes stand for themselves. -/
theorem finish_escapeQuote_iff (written : List Char) (apart : rest.head? ≠ some '\'') :
    mysql.finish (.inside written) (content.flatMap Quoter.escapeQuote ++ '\'' :: rest) =
        some (String.ofList (written ++ content), rest) ↔
      backslashesGuarded content = true := by
  induction content generalizing written with
  | nil =>
      rw [List.flatMap_nil, List.nil_append, List.append_nil, finish_quote, finish_closing apart]
      simp [backslashesGuarded]
  | cons c content ih =>
      by_cases backslash : c = '\\'
      · have opened : mysql.finish (.inside written)
            ((c :: content).flatMap Quoter.escapeQuote ++ '\'' :: rest) =
              mysql.finish (.escaping written)
                (content.flatMap Quoter.escapeQuote ++ '\'' :: rest) := by
          rw [backslash, List.flatMap_cons, List.append_assoc]
          exact finish_cons rfl
        by_cases wildcard : content.head? = some '%' ∨ content.head? = some '_'
        · rw [opened, finish_escaping_wildcard wildcard, backslash,
            List.append_cons written '\\' content, ih]
          simpa [backslashesGuarded] using fun _ => wildcard
        · have lost := finish_escaping_ne written rest wildcard
          rw [opened, backslash, iff_false_left lost]
          simpa [backslashesGuarded] using fun guarded => absurd guarded wildcard
      · have kept : mysql.readFrom ⟨[], .inside written⟩ (String.ofList (Quoter.escapeQuote c)) =
            ⟨[], .inside (written ++ [c])⟩ := by
          by_cases quote : c = '\''
          · simp [readFrom, Quoter.escapeQuote, quote, Engine.read]
          · simp [readFrom, Quoter.escapeQuote, quote, Engine.read, isEscape, backslash]
        rw [List.flatMap_cons, List.append_assoc, finish_append kept,
          List.append_cons written c content, ih, backslashesGuarded_cons_of_ne backslash]

end Engine

namespace Dialect

/-- To a MySQL engine the literal of its dialect is the text, whatever follows but a quote, exactly
if every backslash of the text stands in front of a wildcard. -/
theorem mysql_literal_iff_guarded (content rest : String) (apart : rest.toList.head? ≠ some '\'') :
    (∃ literal, mysql.quoter.quote (.text content) = .ok (.text literal) ∧
      Engine.mysql.literal? (sent literal ++ rest) = some (content, rest)) ↔
      backslashesGuarded content.toList = true := by
  have sentOnce : sent (Quoter.enclose mysql.escape content) =
      Quoter.enclose Quoter.escapeQuote content := sent_enclose rfl content
  rw [← Engine.finish_escapeQuote_iff [] apart, List.nil_append, String.ofList_toList]
  constructor
  · rintro ⟨literal, quoted, found⟩
    obtain rfl : Quoter.enclose mysql.escape content = literal := by
      simpa [quoter, Value.content, Value.display] using quoted
    rw [sentOnce, Engine.literal?_enclose_append, Option.map_eq_some_iff] at found
    obtain ⟨⟨other, behind⟩, finished, same⟩ := found
    obtain ⟨rfl, rfl⟩ := Prod.mk.inj same
    rw [finished, String.toList_ofList]
  · intro finished
    refine ⟨Quoter.enclose mysql.escape content, rfl, ?_⟩
    rw [sentOnce, Engine.literal?_enclose_append, finished]
    simp

/-- A backslash in front of a wildcard stays in the literal. -/
theorem mysql_literal_wildcard :
    ∃ literal, mysql.quoter.quote (.text "50\\% off") = .ok (.text literal) ∧
      Engine.mysql.literal? (sent literal ++ " AND") = some ("50\\% off", " AND") :=
  (mysql_literal_iff_guarded "50\\% off" " AND" (by decide)).mpr (by decide)

/-- A backslash in front of a quote lets the text end its own literal. -/
theorem mysql_literal_ends_early :
    mysql.quoter.quote (.text "\\' OR 1 = 1 -- ") = .ok (.text "'\\'' OR 1 = 1 -- '") ∧
      Engine.mysql.literal? (sent "'\\'' OR 1 = 1 -- '" ++ " LIMIT 1") =
        some ("'", " OR 1 = 1 -- ' LIMIT 1") := by
  refine ⟨by rfl, by decide⟩

end Dialect
end SqlDraft
