import MiniSql.Proofs.Numerals
import MiniSql.Proofs.Slots
import MiniSql.Statement.Json

/-!
# Literals in statements

A numeral is always readable, so a reader whose number tokens are numerals never fails for a
literal. The tokens of a text are of this kind, and every reader hands on only tokens it was
given; what fails for another reason, or reads an operand, does so with numerals.

**Results.**
* `Statement.yields_parse`: no text is rejected for a literal, and no statement has the least
  integer as an operand.
-/

namespace MiniSql

open Token (Numerals)

/-! ## Outcomes -/

/-- A result has the property, or the reason for a rejection is not a literal. -/
def Yields {α : Type} (p : α → Prop) : Except ParseError α → Prop
  | .ok a => p a
  | .error e => ∀ text, e ≠ .invalidLiteral text

namespace Yields

variable {α β : Type} {p : α → Prop} {x : Except ParseError α}

theorem bind {r : β → Prop} {f : α → Except ParseError β} (h : Yields p x)
    (hf : ∀ a, p a → Yields r (f a)) : Yields r (x >>= f) := by
  cases x with
  | ok a => exact hf a h
  | error e => exact h

theorem map {r : β → Prop} {f : α → β} (h : Yields p x) (hf : ∀ a, p a → r (f a)) :
    Yields r (x.map f) := by
  cases x with
  | ok a => exact hf a h
  | error e => exact h

/-- An `if` that only rejects, and not for a literal, is passed or harmless. -/
theorem guard {c : Prop} [Decidable c] {e : ParseError} (he : ∀ text, e ≠ .invalidLiteral text)
    {f : Unit → Except ParseError α} (hf : Yields p (f ())) :
    Yields p (if c then (Except.error e >>= f) else f ()) := by
  split
  · exact he
  · exact hf

/-- Two ways to go on from one of two parts. -/
theorem branch {c : Prop} [Decidable c] {r : β → Prop} {y : Except ParseError α}
    {f : α → Except ParseError β} (hthen : Yields p x) (helse : Yields p y)
    (hf : ∀ a, p a → Yields r (f a)) : Yields r (if c then x >>= f else y >>= f) := by
  split
  · exact hthen.bind hf
  · exact helse.bind hf

theorem mapM {f : α → Except ParseError β} {xs : List α}
    (h : ∀ a ∈ xs, Yields (fun _ => True) (f a)) : Yields (fun _ => True) (xs.mapM f) := by
  induction xs with
  | nil => trivial
  | cons a xs ih =>
      rw [List.mapM_cons]
      refine (h a List.mem_cons_self).bind fun _ _ => ?_
      exact (ih fun b hb => h b (List.mem_cons_of_mem a hb)).bind fun _ _ => trivial

end Yields

/-! ## Readers -/

theorem Token.Numerals.tail {tokens : List Token} (h : Numerals tokens) : Numerals tokens.tail :=
  h.subset fun _ hmem => List.mem_of_mem_tail hmem

theorem Token.Numerals.split {tokens : List Token} (h : Numerals tokens)
    (isSeparator : Token → Bool) : ∀ piece ∈ Token.split isSeparator tokens, Numerals piece := by
  intro piece hpiece
  obtain ⟨before, item, after, hplace, hat⟩ :=
    (Token.listed_split isSeparator [] tokens).exists_place hpiece
  rw [hat]
  refine h.subset ?_
  rw [hplace.eq]
  simp

/-- An operand is not the least integer. -/
def Operand.IsReadable (v : Operand) : Prop :=
  v ≠ .literal (.integer Int64.minValue)

theorem columnName_yields (tokens : List Token) : Yields (fun _ => True) (columnName tokens) := by
  unfold columnName
  simp only
  split
  · trivial
  · exact nofun

theorem Operand.yields_read {slot : Nat} {tokens : List Token} (h : Numerals tokens) :
    Yields (fun read => read.1.IsReadable) (Operand.read slot tokens) := by
  have hnumber : ∀ digits long, .number digits long ∈ tokens → ∀ negative,
      Yields (fun read : Operand × Nat => read.1.IsReadable)
        ((Literal.readNumber digits negative).map fun l => (.literal l, slot)) := by
    intro digits long hmem negative
    obtain ⟨l, hread, hl⟩ := Literal.exists_readNumber (h digits long hmem) negative
    rw [hread]
    exact fun heq => hl (Operand.literal.inj heq)
  unfold Operand.read
  split
  · exact nofun
  · exact nofun
  · exact nofun
  · next digits long => exact hnumber digits long (by simp) false
  · next digits long => exact hnumber digits long (by simp) true
  · split
    · exact nofun
    · split
      · exact fun heq => absurd (Operand.literal.inj heq) (by decide)
      · split
        · exact fun heq => absurd (Operand.literal.inj heq) (by decide)
        · exact nofun
  · exact nofun

theorem Operand.yields_readAll {slot : Nat} {pieces : List (List Token)}
    (h : ∀ piece ∈ pieces, Numerals piece) :
    Yields (fun read => ∀ v ∈ read.1, v.IsReadable) (Operand.readAll slot pieces) := by
  induction pieces generalizing slot with
  | nil => exact nofun
  | cons piece pieces ih =>
      refine (Operand.yields_read (h piece List.mem_cons_self)).bind ?_
      rintro ⟨v, slot⟩ hv
      refine (ih fun p hp => h p (List.mem_cons_of_mem piece hp)).bind ?_
      rintro ⟨vs, slot⟩ hvs
      exact List.forall_mem_cons.mpr ⟨hv, hvs⟩

theorem Predicate.yields_read (slot : Nat) (tokens : List Token) :
    Yields (fun _ => True) (Predicate.read slot tokens) := by
  unfold Predicate.read
  split
  · trivial
  · split
    · simp only
      split
      · exact nofun
      · trivial
    · trivial

theorem Column.yields_readAll (columns : List Column) (definitions : List (List Token)) :
    Yields (fun _ => True) (Column.readAll columns definitions) := by
  induction definitions generalizing columns with
  | nil => trivial
  | cons definition definitions ih =>
      have hadd : Yields (fun _ => True) (Column.addDefinition columns definition) := by
        unfold Column.addDefinition
        split
        · exact nofun
        · split
          · trivial
          · split
            · trivial
            · exact nofun
      exact hadd.bind fun columns _ => ih columns

namespace Parser

variable {tokens : List Token}

theorem yields_expect (keyword : String) (h : Numerals tokens) :
    Yields Numerals (expect keyword tokens) := by
  unfold expect
  split
  · exact nofun
  · split
    · exact h.tail
    · exact nofun

theorem yields_identifier (h : Numerals tokens) :
    Yields (fun named => Numerals named.2) (identifier tokens) := by
  unfold identifier
  split
  · exact h.tail
  · exact nofun

theorem yields_relationName (h : Numerals tokens) :
    Yields (fun named => Numerals named.2) (relationName tokens) := by
  refine (yields_identifier h).bind ?_
  rintro ⟨name, rest⟩ (hrest : Numerals rest)
  simp only
  split
  · exact yields_identifier hrest.tail
  · exact hrest

theorem yields_group (h : Numerals tokens) :
    Yields (fun read => Numerals read.1 ∧ Numerals read.2) (group tokens) := by
  cases hgroup : group tokens with
  | ok read =>
      obtain ⟨inner, rest⟩ := read
      rw [group_eq_ok hgroup] at h
      exact ⟨h.subset (by simp), h.subset fun t ht => by simp [ht]⟩
  | error e =>
      unfold group at hgroup
      split at hgroup
      · split at hgroup
        · cases hgroup
        · cases hgroup
          exact nofun
      · cases hgroup
        exact nofun

theorem yields_optionalGroup (h : Numerals tokens) :
    Yields (fun read => Numerals (read.1.getD []) ∧ Numerals read.2) (optionalGroup tokens) := by
  unfold optionalGroup
  split
  · exact (yields_group h).map fun _ hread => hread
  · exact ⟨nofun, h⟩

theorem yields_assignment {slot : Nat} {entry : List Token} (h : Numerals entry) :
    Yields (fun read => read.1.value.IsReadable) (assignment slot entry) := by
  unfold assignment
  split
  · exact nofun
  · next equality value hvalue =>
      refine (columnName_yields _).bind fun column _ => ?_
      have hoperand : Numerals value := by
        have hsuffix : equality :: value <:+ entry := hvalue ▸ List.dropWhile_suffix _
        exact h.subset fun t ht => hsuffix.subset (List.mem_cons_of_mem equality ht)
      refine (Operand.yields_read hoperand).bind ?_
      rintro ⟨v, slot⟩ hv
      exact hv

theorem yields_assignments {slot : Nat} {entries : List (List Token)}
    (h : ∀ entry ∈ entries, Numerals entry) :
    Yields (fun read => ∀ a ∈ read.1, a.value.IsReadable) (assignments slot entries) := by
  induction entries generalizing slot with
  | nil => exact nofun
  | cons entry entries ih =>
      refine (yields_assignment (h entry List.mem_cons_self)).bind ?_
      rintro ⟨a, slot⟩ ha
      refine (ih fun e he => h e (List.mem_cons_of_mem entry he)).bind ?_
      rintro ⟨others, slot⟩ hothers
      exact List.forall_mem_cons.mpr ⟨ha, hothers⟩

theorem yields_skipAlias (tokens : List Token) : Yields (fun _ => True) (skipAlias tokens) := by
  unfold skipAlias
  split
  · unfold identifier
    split
    · trivial
    · exact nofun
  · split <;> trivial

/-! ## Statements -/

theorem yields_createTable (h : Numerals tokens) : Yields (fun _ => True) (createTable tokens) := by
  unfold createTable
  refine (yields_expect _ h).bind fun tokens h => ?_
  simp only
  refine (yields_expect "TABLE" (?_ : Numerals _)).bind fun tokens h => ?_
  · split
    · exact h.tail
    · exact h
  have hexists : Yields Numerals (expect "NOT" tokens.tail >>= expect "EXISTS") :=
    (yields_expect _ h.tail).bind fun tokens h => yields_expect _ h
  refine Yields.branch hexists h fun tokens h => ?_
  refine (yields_relationName h).bind ?_
  rintro ⟨relation, tokens⟩ h
  refine Yields.guard (by nofun) ?_
  refine (yields_optionalGroup h).bind ?_
  rintro ⟨body, tokens⟩ -
  exact (Column.yields_readAll _ _).bind fun _ _ => trivial

theorem yields_insert (h : Numerals tokens) :
    Yields (fun read => ∀ v ∈ read.1.values, v.IsReadable) (insert tokens) := by
  unfold insert
  refine (yields_expect _ h).bind fun tokens h => ?_
  refine Yields.guard (by nofun) ?_
  refine (yields_expect _ h).bind fun tokens h => ?_
  refine (yields_relationName h).bind ?_
  rintro ⟨relation, tokens⟩ h
  refine (yields_optionalGroup h).bind ?_
  rintro ⟨list, tokens⟩ ⟨-, h⟩
  refine (Yields.mapM fun _ _ => columnName_yields _).bind fun columns _ => ?_
  refine Yields.guard (by nofun) ?_
  refine (yields_expect _ h).bind fun tokens h => ?_
  refine (yields_group h).bind ?_
  rintro ⟨list, tokens⟩ ⟨hlist, h⟩
  refine (Operand.yields_readAll (hlist.split _)).bind ?_
  rintro ⟨values, slot⟩ hvalues
  refine Yields.guard (by nofun) ?_
  refine Yields.guard (by nofun) ?_
  exact hvalues

theorem yields_update (h : Numerals tokens) :
    Yields (fun read => ∀ a ∈ read.1.assignments, a.value.IsReadable) (update tokens) := by
  unfold update
  refine (yields_expect _ h).bind fun tokens h => ?_
  refine Yields.guard (by nofun) ?_
  refine (yields_relationName h).bind ?_
  rintro ⟨relation, tokens⟩ h
  refine (yields_expect _ h).bind fun tokens h => ?_
  have happend := Token.takeUntil_append (·.isKeyword "WHERE") 0 tokens
  cases htake : Token.takeUntil (·.isKeyword "WHERE") 0 tokens with
  | mk list rest =>
  simp only
  rw [htake] at happend
  have hlist : Numerals list := h.subset (by simp [← happend])
  refine (yields_assignments (hlist.split _)).bind ?_
  rintro ⟨changes, slot⟩ hchanges
  refine Yields.guard (by nofun) ?_
  refine (Predicate.yields_read _ _).bind ?_
  rintro ⟨predicate, tokens⟩ -
  exact hchanges

theorem yields_delete (h : Numerals tokens) : Yields (fun _ => True) (delete tokens) := by
  unfold delete
  refine (yields_expect _ h).bind fun tokens h => ?_
  refine (yields_expect _ h).bind fun tokens h => ?_
  refine (yields_relationName h).bind fun _ _ => ?_
  exact (Predicate.yields_read _ _).bind fun _ _ => trivial

theorem yields_select (h : Numerals tokens) : Yields (fun _ => True) (select tokens) := by
  unfold select
  refine (yields_expect _ h).bind fun tokens h => ?_
  have happend := Token.takeUntil_append (·.isKeyword "FROM") 0 tokens
  cases htake : Token.takeUntil (·.isKeyword "FROM") 0 tokens with
  | mk list rest =>
  simp only
  rw [htake] at happend
  have hrest : Numerals rest := h.subset (by simp [← happend])
  refine Yields.guard (by nofun) ?_
  refine (yields_relationName hrest.tail).bind fun _ _ => ?_
  refine (yields_skipAlias _).bind fun _ _ => ?_
  refine Yields.guard (by nofun) ?_
  refine (Predicate.yields_read _ _).bind fun _ _ => ?_
  refine Yields.guard (by nofun) ?_
  trivial

theorem yields_statement (kind : StatementKind) (h : Numerals tokens) :
    Yields (fun read => ∀ v ∈ read.1.operands, v.IsReadable) (statement kind tokens) := by
  cases kind with
  | createTable => exact (yields_createTable h).map fun _ _ => nofun
  | insert => exact (yields_insert h).map fun _ hvalues => hvalues
  | update => exact (yields_update h).map fun _ hvalues => List.forall_mem_map.mpr hvalues
  | delete => exact (yields_delete h).map fun _ _ => nofun
  | select => exact (yields_select h).map fun _ _ => nofun
  | begin => exact nofun
  | commit => exact nofun
  | rollback =>
      refine Yields.map (p := fun _ => True) ?_ fun _ _ => nofun
      unfold rollback
      refine (yields_expect _ h).bind fun _ _ => ?_
      exact Yields.guard (by nofun) trivial
  | pragma => exact (yields_expect _ h).bind fun _ _ => nofun
  | unknown => exact nofun

end Parser

/-- No text is rejected for a literal in it, and no operand of a statement is the least
integer. -/
theorem Statement.yields_parse (sql : String) :
    Yields (fun s => ∀ v ∈ s.operands, v.IsReadable) (parse sql) := by
  unfold parse
  split
  · exact nofun
  · next tokens hscan =>
      unfold ofTokens
      split
      · exact nofun
      · refine (Parser.yields_statement _ (Token.numerals_of_scan hscan)).bind ?_
        rintro ⟨s, rest⟩ hs
        have hfinish : Yields (fun _ => True) (Parser.finish rest) := by
          unfold Parser.finish
          split
          · trivial
          · exact nofun
        exact hfinish.bind fun _ _ => hs

end MiniSql
