import Calculator.Proofs.Grammar.Lookahead

/-!
# The grammar is unambiguous

Tokens have at most one derivation of a nonterminal. More is needed for the proof:
two derivations that begin the same tokens, and stop before a token that extends
neither, are the same and stop at the same place.
-/

namespace Calculator
namespace Grammar

variable {variableName : String}

/-- Primaries that begin alike have the same form. -/
theorem Derivation.lead_eq
    (unreserved : variableName ∉ reservedNames)
    (left right : Derivation variableName .primary)
    {after others : List Token}
    (equal : left.yield ++ after = right.yield ++ others) :
    left.lead = right.lead := by
  obtain ⟨head, tail, yields, -, leads⟩ := left.exists_head unreserved
  obtain ⟨head', tail', yields', -, leads'⟩ := right.exists_head unreserved
  rw [yields, yields'] at equal
  have sameHead : head = head' := (List.cons.inj equal).1
  rw [leads, leads', sameHead]

/-- No operand begins both with a sign and without one. -/
theorem Derivation.signed_ne_unsigned
    (unreserved : variableName ∉ reservedNames)
    (sign : OperatorToken ["-", "+"])
    (operand : Derivation variableName .power)
    {after others : List Token} :
    sign.val :: after ≠ operand.yield ++ others := by
  intro equal
  obtain ⟨head, tail, yields, other⟩ := operand.exists_head_of_power unreserved
  rw [yields] at equal
  have sameHead : sign.val = head := (List.cons.inj equal).1
  exact other (sameHead ▸ (isOperator_iff.mp sign.property).1)

mutual

/-- Derivations of a nonterminal that begin the same tokens, and are followed by no
token that extends them, are the same. -/
theorem Derivation.eq_of_yield_append_eq (unreserved : variableName ∉ reservedNames) :
    {nonterminal : Nonterminal} →
    (left right : Derivation variableName nonterminal) →
    {after others : List Token} →
    Stops nonterminal.continuations after →
    Stops nonterminal.continuations others →
    left.yield ++ after = right.yield ++ others →
    left = right ∧ after = others
  | _, .chain first links, right, after, others, stops, stops', equal => by
      cases right with
      | chain first' links' =>
          simp only [Derivation.yield, List.append_assoc] at equal
          obtain ⟨rfl, linksEqual⟩ := Derivation.eq_of_yield_append_eq unreserved first first'
            (links.stops stops) (links'.stops stops') equal
          obtain ⟨rfl, restEqual⟩ := links.eq_of_yield_append_eq unreserved links'
            stops stops' linksEqual
          exact ⟨rfl, restEqual⟩
  | _, .signed sign operand, right, after, others, stops, stops', equal => by
      cases right with
      | signed sign' operand' =>
          simp only [Derivation.yield, List.cons_append, List.cons.injEq] at equal
          obtain ⟨signEqual, operandsEqual⟩ := equal
          obtain ⟨rfl, restEqual⟩ := Derivation.eq_of_yield_append_eq unreserved operand operand'
            stops stops' operandsEqual
          exact ⟨by rw [Subtype.ext signEqual], restEqual⟩
      | unsigned operand' =>
          exact absurd equal (Derivation.signed_ne_unsigned unreserved sign operand')
  | _, .unsigned operand, right, after, others, stops, stops', equal => by
      cases right with
      | signed sign' operand' =>
          exact absurd equal.symm (Derivation.signed_ne_unsigned unreserved sign' operand)
      | unsigned operand' =>
          obtain ⟨rfl, restEqual⟩ := Derivation.eq_of_yield_append_eq unreserved operand operand'
            stops stops' equal
          exact ⟨rfl, restEqual⟩
  | _, .raised base caret exponent, right, after, others, stops, stops', equal => by
      cases right with
      | raised base' caret' exponent' =>
          simp only [Derivation.yield, List.append_assoc, List.cons_append] at equal
          obtain ⟨rfl, caretsEqual⟩ := Derivation.eq_of_yield_append_eq unreserved base base'
            (stops_primary _) (stops_primary _) equal
          obtain ⟨caretEqual, exponentsEqual⟩ := List.cons.inj caretsEqual
          obtain ⟨rfl, restEqual⟩ := Derivation.eq_of_yield_append_eq unreserved exponent exponent'
            stops stops' exponentsEqual
          exact ⟨by rw [Subtype.ext caretEqual], restEqual⟩
      | plain base' =>
          simp only [Derivation.yield, List.append_assoc, List.cons_append] at equal
          obtain ⟨rfl, caretEqual⟩ := Derivation.eq_of_yield_append_eq unreserved base base'
            (stops_primary _) (stops_primary _) equal
          rw [← caretEqual] at stops'
          exact absurd stops' (not_stops_caret caret _)
  | _, .plain base, right, after, others, stops, stops', equal => by
      cases right with
      | raised base' caret' exponent' =>
          simp only [Derivation.yield, List.append_assoc, List.cons_append] at equal
          obtain ⟨rfl, caretEqual⟩ := Derivation.eq_of_yield_append_eq unreserved base base'
            (stops_primary _) (stops_primary _) equal
          rw [caretEqual] at stops
          exact absurd stops (not_stops_caret caret' _)
      | plain base' =>
          obtain ⟨rfl, restEqual⟩ := Derivation.eq_of_yield_append_eq unreserved base base'
            (stops_primary _) (stops_primary _) equal
          exact ⟨rfl, restEqual⟩
  | _, .number token, right, after, others, _, _, equal => by
      have sameForm := Derivation.lead_eq unreserved (.number token) right equal
      cases right with
      | number token' =>
          obtain ⟨tokenEqual, restEqual⟩ := List.cons.inj equal
          exact ⟨by rw [Subtype.ext tokenEqual], restEqual⟩
      | _ => cases sameForm
  | _, .constant word meaning named, right, after, others, _, _, equal => by
      have sameForm := Derivation.lead_eq unreserved (.constant word meaning named) right equal
      cases right with
      | constant word' meaning' named' =>
          cases sameForm
          obtain ⟨wordEqual, restEqual⟩ := List.cons.inj equal
          obtain rfl := Subtype.ext wordEqual
          exact ⟨rfl, restEqual⟩
      | _ => cases sameForm
  | _, .symbol word named, right, after, others, _, _, equal => by
      have sameForm := Derivation.lead_eq unreserved (.symbol word named) right equal
      cases right with
      | symbol word' named' =>
          obtain ⟨wordEqual, restEqual⟩ := List.cons.inj equal
          obtain rfl := Subtype.ext wordEqual
          exact ⟨rfl, restEqual⟩
      | _ => cases sameForm
  | _, .call word meaning named opener argument closer, right, after, others, _, _, equal => by
      have sameForm := Derivation.lead_eq unreserved
        (.call word meaning named opener argument closer) right equal
      cases right with
      | call word' meaning' named' opener' argument' closer' =>
          cases sameForm
          simp only [Derivation.yield, List.append_assoc, List.cons_append, List.nil_append,
            List.cons.injEq] at equal
          obtain ⟨wordEqual, openerEqual, argumentsEqual⟩ := equal
          obtain rfl := Subtype.ext wordEqual
          obtain rfl := Subtype.ext openerEqual
          obtain ⟨rfl, closersEqual⟩ := Derivation.eq_of_yield_append_eq unreserved
            argument argument' (stops_closer closer _ _) (stops_closer closer' _ _) argumentsEqual
          obtain ⟨closerEqual, restEqual⟩ := List.cons.inj closersEqual
          obtain rfl := Subtype.ext closerEqual
          exact ⟨rfl, restEqual⟩
      | _ => cases sameForm
  | _, .group opener body closer, right, after, others, _, _, equal => by
      have sameForm := Derivation.lead_eq unreserved (.group opener body closer) right equal
      cases right with
      | group opener' body' closer' =>
          simp only [Derivation.yield, List.append_assoc, List.cons_append, List.nil_append,
            List.cons.injEq] at equal
          obtain ⟨openerEqual, bodiesEqual⟩ := equal
          obtain rfl := Subtype.ext openerEqual
          obtain ⟨rfl, closersEqual⟩ := Derivation.eq_of_yield_append_eq unreserved body body'
            (stops_closer closer _ _) (stops_closer closer' _ _) bodiesEqual
          obtain ⟨closerEqual, restEqual⟩ := List.cons.inj closersEqual
          obtain rfl := Subtype.ext closerEqual
          exact ⟨rfl, restEqual⟩
      | _ => cases sameForm

/-- Links of a level that begin the same tokens, and are followed by no token
that extends the level, are the same. -/
theorem Links.eq_of_yield_append_eq (unreserved : variableName ∉ reservedNames) :
    {precedence : Precedence} →
    (left right : Links variableName precedence) →
    {after others : List Token} →
    Stops (Nonterminal.level precedence).continuations after →
    Stops (Nonterminal.level precedence).continuations others →
    left.yield ++ after = right.yield ++ others →
    left = right ∧ after = others
  | _, .done, right, after, others, stops, stops', equal => by
      cases right with
      | done => exact ⟨rfl, equal⟩
      | link sign operand links =>
          have follows : after = sign.val :: ((operand.yield ++ links.yield) ++ others) := equal
          rw [follows] at stops
          exact absurd stops (Precedence.not_stops sign _)
  | _, .link sign operand links, right, after, others, stops, stops', equal => by
      cases right with
      | done =>
          have follows : others = sign.val :: ((operand.yield ++ links.yield) ++ after) :=
            equal.symm
          rw [follows] at stops'
          exact absurd stops' (Precedence.not_stops sign _)
      | link sign' operand' links' =>
          simp only [Links.yield, List.append_assoc, List.cons_append, List.cons.injEq] at equal
          obtain ⟨signEqual, operandsEqual⟩ := equal
          obtain ⟨rfl, linksEqual⟩ := operand.eq_of_yield_append_eq unreserved operand'
            (links.stops stops) (links'.stops stops') operandsEqual
          obtain ⟨rfl, restEqual⟩ := Links.eq_of_yield_append_eq unreserved links links'
            stops stops' linksEqual
          exact ⟨by rw [Subtype.ext signEqual], restEqual⟩

end

/-- Tokens have at most one derivation of a nonterminal. -/
theorem Derivation.eq_of_yield_eq
    (unreserved : variableName ∉ reservedNames)
    {nonterminal : Nonterminal}
    (left right : Derivation variableName nonterminal)
    (equal : left.yield = right.yield) :
    left = right := by
  have appended : left.yield ++ [] = right.yield ++ [] := by rw [equal]
  exact (left.eq_of_yield_append_eq unreserved right (stops_nil _) (stops_nil _) appended).1

end Grammar
end Calculator
