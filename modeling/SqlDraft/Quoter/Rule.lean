import SqlDraft.Quoter.Basic
import SqlDraft.Text.Replace

/-!
# Quoting rules

A quoting rule describes a function that serves as a quoter: replacements, applied one after the
other, with a text in front and a text behind.  A rule that counts characters shows what happens
when a function answers with a number.
-/

namespace SqlDraft

/-- A function on texts that serves as a quoter. -/
inductive QuotingRule
  /-- Replace texts in turn, then put one text in front and one behind. -/
  | affixes (before after : String) (replacements : List (String × String))
  /-- Count the characters. -/
  | length

namespace QuotingRule

/-- The value of the function at a text. -/
def apply : QuotingRule → String → Value
  | affixes before after replacements, content =>
      let replaced := replacements.foldl
        (fun content replacement => Text.replaceAll content replacement.1 replacement.2) content
      .text (before ++ replaced ++ after)
  | length, content => .int content.length

/-- A quoter that applies the rule, under the given name. -/
def quoter (rule : QuotingRule) (name : String) : Quoter where
  dialect := name
  quoteText := fun content => .ok (rule.apply content)

end QuotingRule
end SqlDraft
