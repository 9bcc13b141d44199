import MiniSql.CommandLine.Run
import MiniSql.Proofs.Leading
import MiniSql.Proofs.Scripts

/-!
# Piped scripts

A script can be executed from a file at once, or piped into a conversation line by line. A
conversation ends an input wherever a line ends in a semicolon, and knows nothing of texts and
comments; what stands behind the last of these semicolons is never executed. If each of them is a
token, the inputs are cut out of the script at some of its own cuts, and the statements of all
inputs are those of the script up to the last of them.

**Results.**
* `gathered_inputs`: how the inputs lie in a piped text.
* `flatMap_statements_inputs`: the statements of the inputs, put together.
* `converse_of_scripts`: a conversation over scripts whose statements succeed.
* `pipe_executes_finished`: piping a script and executing its finished part from a file.
* `pipe_drops_unfinished`: where both differ.
-/

namespace MiniSql

namespace Text

/-! ## Trimmed texts -/

section Trimmed

variable {cs ds before blanks : List Char}

theorem isBlank_semicolon : isBlank ';' = false := by
  decide +kernel

theorem head?_trimStart (cs : List Char) :
    ∀ c ∈ (trimStart cs).head?, isBlank c = false := by
  intro c hc
  have hnot := List.head?_dropWhile_not isBlank cs
  rwa [← trimStart, Option.mem_def.mp hc] at hnot

theorem trimStart_append (cs ds : List Char) :
    trimStart (cs ++ ds) =
      if trimStart cs = [] then trimStart ds else trimStart cs ++ ds := by
  rw [trimStart, List.dropWhile_append, trimStart, trimStart]
  cases cs.dropWhile isBlank <;> simp

theorem trimEnd_append_blanks (h : ∀ b ∈ blanks, isBlank b = true) (cs : List Char) :
    trimEnd (cs ++ blanks) = trimEnd cs := by
  have hreverse : ∀ b ∈ blanks.reverse, isBlank b = true :=
    fun b hb => h b (List.mem_reverse.mp hb)
  rw [trimEnd, List.reverse_append, List.dropWhile_append_of_pos hreverse]
  rfl

theorem trimStart_of_blank (h : ∀ b ∈ blanks, isBlank b = true) :
    trimStart blanks = [] :=
  List.dropWhile_eq_nil_iff.mpr h

theorem exists_trimEnd_append (cs : List Char) :
    ∃ blanks, trimEnd cs ++ blanks = cs ∧ ∀ b ∈ blanks, isBlank b = true := by
  refine ⟨(cs.reverse.takeWhile isBlank).reverse, ?_, ?_⟩
  · rw [trimEnd, ← List.reverse_append, List.takeWhile_append_dropWhile, List.reverse_reverse]
  · intro b hb
    exact List.mem_takeWhile_imp (List.mem_reverse.mp hb)

/-- Blanks behind a text are trimmed. -/
theorem trimmed_append_blanks (h : ∀ b ∈ blanks, isBlank b = true) (cs : List Char) :
    trimEnd (trimStart (cs ++ blanks)) = trimEnd (trimStart cs) := by
  rw [trimStart_append]
  split
  · next hcs => rw [hcs, trimStart_of_blank h]
  · exact trimEnd_append_blanks h _

/-- An input with a semicolon at its end. -/
theorem trimmed_of_ends (h : ∀ b ∈ blanks, isBlank b = true) (before : List Char) :
    trimEnd (trimStart (before ++ ';' :: blanks)) = trimStart before ++ [';'] := by
  have hstart : trimStart (before ++ ';' :: blanks) =
      trimStart before ++ [';'] ++ blanks := by
    rw [trimStart_append]
    split
    · next hbefore =>
        rw [hbefore, trimStart_cons_of_not_blank isBlank_semicolon]
        rfl
    · simp
  rw [hstart, trimEnd_append_blanks h, trimEnd_concat_of_not_blank isBlank_semicolon]

end Trimmed

end Text

namespace Shell

/-! ## Semicolons at the end of a line -/

/-- Nothing but blanks is left of the line. -/
def endsLine (cs : List Char) : Bool :=
  (cs.takeWhile (· ≠ '\n')).all Text.isBlank

/-- A text up to the last semicolon that ends a line. -/
def finished : List Char → List Char
  | [] => []
  | c :: cs =>
    match finished cs with
    | [] => if c = ';' ∧ endsLine cs then [c] else []
    | d :: ds => c :: d :: ds

theorem finished_cons (c : Char) (cs : List Char) :
    finished (c :: cs) =
      if finished cs = [] then (if c = ';' ∧ endsLine cs then [c] else [])
      else c :: finished cs := by
  rw [finished]
  cases finished cs <;> simp

theorem endsLine_append_newline (cs ds : List Char) :
    endsLine (cs ++ '\n' :: ds) = endsLine cs := by
  rw [endsLine, Lexer.takeWhile_append_cons (by simp), endsLine]

theorem finished_append_newline (cs ds : List Char) :
    finished (cs ++ '\n' :: ds) =
      if finished ds = [] then finished cs else cs ++ '\n' :: finished ds := by
  induction cs with
  | nil =>
      rw [List.nil_append, finished_cons, if_neg (c := '\n' = ';' ∧ _) (by simp)]
      split <;> rfl
  | cons c cs ih =>
      rw [List.cons_append, finished_cons, ih, endsLine_append_newline, finished_cons]
      by_cases hds : finished ds = []
      · rw [if_pos hds, if_pos hds]
      · rw [if_neg hds, if_neg hds, if_neg (by simp)]
        rfl

/-- The last semicolon that ends a line. -/
theorem exists_of_finished {text : List Char} (h : finished text ≠ []) :
    ∃ before after, finished text = before ++ [';'] ∧ text = before ++ ';' :: after ∧
      endsLine after = true := by
  induction text with
  | nil => exact absurd rfl h
  | cons c cs ih =>
      rw [finished_cons] at h ⊢
      by_cases hcs : finished cs = []
      · rw [if_pos hcs] at h ⊢
        by_cases hc : c = ';' ∧ endsLine cs = true
        · obtain ⟨rfl, hends⟩ := hc
          exact ⟨[], cs, if_pos ⟨rfl, hends⟩, rfl, hends⟩
        · exact absurd (if_neg hc) h
      · obtain ⟨before, after, hfinished, rfl, hends⟩ := ih hcs
        refine ⟨c :: before, after, ?_, rfl, hends⟩
        rw [if_neg hcs, hfinished]
        rfl

/-- No semicolon ends a line behind the finished part of a text. -/
theorem exists_finished_append (text : List Char) :
    ∃ rest, finished text ++ rest = text ∧
      ∀ before after, rest = before ++ ';' :: after → endsLine after = false := by
  induction text with
  | nil => exact ⟨[], rfl, fun before after h => by simp at h⟩
  | cons c cs ih =>
      obtain ⟨rest, hrest, hnone⟩ := ih
      rw [finished_cons]
      by_cases hcs : finished cs = []
      · rw [if_pos hcs]
        obtain rfl : rest = cs := by rwa [hcs] at hrest
        by_cases hc : c = ';' ∧ endsLine rest = true
        · rw [if_pos hc, hc.1]
          exact ⟨rest, rfl, hnone⟩
        · rw [if_neg hc]
          refine ⟨c :: rest, rfl, fun before after hcut => ?_⟩
          cases before with
          | nil =>
              obtain ⟨rfl, rfl⟩ := List.cons.inj hcut
              exact Bool.eq_false_iff.mpr fun hends => hc ⟨rfl, hends⟩
          | cons d before => exact hnone before after (List.cons.inj hcut).2
      · rw [if_neg hcs]
        exact ⟨rest, congrArg (c :: ·) hrest, hnone⟩

theorem finished_of_blank {cs : List Char} (h : ∀ c ∈ cs, Text.isBlank c = true) :
    finished cs = [] := by
  by_contra hne
  obtain ⟨before, after, -, rfl, -⟩ := exists_of_finished hne
  have hsemicolon := h ';' (by simp)
  rw [Text.isBlank_semicolon] at hsemicolon
  cases hsemicolon

theorem finished_of_ends {blanks : List Char} (h : ∀ b ∈ blanks, Text.isBlank b = true)
    (before : List Char) : finished (before ++ ';' :: blanks) = before ++ [';'] := by
  induction before with
  | nil =>
      have hends : endsLine blanks = true :=
        List.all_eq_true.mpr fun b hb => h b ((List.takeWhile_subset _) hb)
      rw [List.nil_append, finished_cons, if_pos (finished_of_blank h), if_pos ⟨rfl, hends⟩]
      rfl
  | cons c before ih =>
      rw [List.cons_append, finished_cons, ih, if_neg (by simp)]
      rfl

/-- A line that is finished ends in a semicolon. -/
theorem exists_ends_of_finished {line : List Char} (hline : '\n' ∉ line)
    (h : finished line ≠ []) :
    ∃ before blanks, line = before ++ ';' :: blanks ∧ ∀ b ∈ blanks, Text.isBlank b = true := by
  obtain ⟨before, after, -, rfl, hends⟩ := exists_of_finished h
  refine ⟨before, after, rfl, ?_⟩
  have hafter : after.takeWhile (· ≠ '\n') = after := by
    rw [List.takeWhile_eq_self_iff]
    intro c hc
    refine decide_eq_true fun heq => hline ?_
    rw [← heq]
    exact List.mem_append_right before (List.mem_cons_of_mem _ hc)
  rw [endsLine, hafter] at hends
  exact List.all_eq_true.mp hends

/-! ## Complete inputs -/

section Complete

variable {cs ds before blanks : List Char}

/-- What begins with no command begins with none when it is cut off. -/
theorem command_of_append (h : (Text.trimStart (cs ++ ds)).head? ≠ some '\\') :
    (Text.trimStart cs).head? ≠ some '\\' := by
  intro hhead
  rw [Text.trimStart_append] at h
  split at h
  · next hnil =>
      rw [hnil] at hhead
      cases hhead
  · rw [List.head?_append, hhead] at h
    exact h rfl

theorem isComplete_congr
    (h : Text.trimEnd (Text.trimStart cs) = Text.trimEnd (Text.trimStart ds)) :
    isComplete cs = isComplete ds := by
  rw [isComplete, isComplete, h]

theorem isComplete_of_ends (h : ∀ b ∈ blanks, Text.isBlank b = true) (before : List Char) :
    isComplete (before ++ ';' :: blanks) = true := by
  rw [isComplete, Text.trimmed_of_ends h]
  cases hbefore : Text.trimStart before with
  | nil => rfl
  | cons c cs =>
      have hlast : (c :: cs ++ [';']).getLast? = some ';' := List.getLast?_concat
      rw [List.cons_append] at hlast ⊢
      simp [hlast]

/-- A complete input is a command, or blank, or it ends in a semicolon. -/
theorem blank_or_ends_of_isComplete (h : isComplete cs = true)
    (hcommand : (Text.trimStart cs).head? ≠ some '\\') :
    (∀ b ∈ cs, Text.isBlank b = true) ∨
      ∃ before blanks, cs = before ++ ';' :: blanks ∧ ∀ b ∈ blanks, Text.isBlank b = true := by
  obtain ⟨blanks, hend, hblanks⟩ := Text.exists_trimEnd_append (Text.trimStart cs)
  have hcs : cs.takeWhile Text.isBlank ++ Text.trimStart cs = cs := List.takeWhile_append_dropWhile
  unfold isComplete at h
  split at h
  · next hnil =>
      left
      rw [hnil, List.nil_append] at hend
      rw [← hcs, ← hend]
      intro b hb
      rcases List.mem_append.mp hb with hb | hb
      · exact List.mem_takeWhile_imp hb
      · exact hblanks b hb
  · next c ds htrimmed =>
      right
      have hc : c ≠ '\\' := by
        rintro rfl
        rw [← hend, htrimmed] at hcommand
        exact hcommand rfl
      have hlast : (c :: ds).getLast? = some ';' := by simpa [hc] using h
      obtain ⟨es, hes⟩ := List.getLast?_eq_some_iff.mp hlast
      refine ⟨cs.takeWhile Text.isBlank ++ es, blanks, ?_, hblanks⟩
      rw [htrimmed, hes] at hend
      rw [List.append_assoc, ← List.singleton_append, ← List.append_assoc es, hend, hcs]

end Complete

/-! ## Inputs of a text -/

/-- How complete inputs lie in a text: each one ends with its line, and is kept up to blanks at
its ends. What is not finished is dropped. -/
inductive Gathered : List Char → List (List Char) → Prop
  | unfinished {text : List Char} :
      finished text = [] →
      Gathered text []
  | last {text : List Char} :
      isComplete text = true →
      Gathered text [text]
  | next {input kept text : List Char} {inputs : List (List Char)} :
      isComplete input = true →
      Text.trimEnd (Text.trimStart kept) = Text.trimEnd (Text.trimStart input) →
      Gathered text inputs →
      Gathered (input ++ '\n' :: text) (kept :: inputs)

theorem splitReturn_append (cs : List Char) :
    (splitReturn cs).1 ++ (splitReturn cs).2 = cs ∧
      Text.trimEnd (Text.trimStart (splitReturn cs).1) = Text.trimEnd (Text.trimStart cs) := by
  unfold splitReturn
  split
  · next hlast =>
      obtain ⟨ds, rfl⟩ := List.getLast?_eq_some_iff.mp hlast
      have hblank : ∀ b ∈ ['\r'], Text.isBlank b = true :=
        List.forall_mem_singleton.mpr (by decide +kernel)
      rw [List.dropLast_concat]
      exact ⟨rfl, (Text.trimmed_append_blanks hblank ds).symm⟩
  · exact ⟨List.append_nil cs, rfl⟩

/-- Nothing is finished in the lines gathered so far, which end with their line. -/
def Pending (gathered : List Char) : Prop :=
  gathered = [] ∨ ∃ before, gathered = before ++ ['\n'] ∧ finished before = []

/-- Nothing is finished in an input that is not complete. -/
theorem Pending.finished_append {gathered line : List Char} (h : Pending gathered)
    (hline : '\n' ∉ line) (hnot : isComplete (gathered ++ line) = false) :
    finished (gathered ++ line) = [] := by
  have hnone : finished line = [] := by
    by_contra hne
    obtain ⟨before, blanks, rfl, hblanks⟩ := exists_ends_of_finished hline hne
    rw [← List.append_assoc, isComplete_of_ends hblanks] at hnot
    cases hnot
  rcases h with rfl | ⟨before, rfl, hbefore⟩
  · exact hnone
  · rw [List.append_assoc, List.singleton_append, finished_append_newline, if_pos hnone, hbefore]

theorem Pending.finished {gathered : List Char} (h : Pending gathered) :
    finished gathered = [] := by
  rcases h with rfl | ⟨before, rfl, hbefore⟩
  · rfl
  · exact (finished_append_newline before []).trans ((if_pos rfl).trans hbefore)

section Gather

variable {gathered line : List Char} {lines : List (List Char)}

theorem gather_singleton (hback : Text.backspace ∉ gathered ++ line) :
    gather gathered [line] =
      if line ≠ [] ∧ isComplete (gathered ++ line) = true then [gathered ++ line] else [] := by
  rw [gather, Text.eraseBackspaces_of_not_mem hback]

/-- A line that is followed by another one, and has no backspaces. -/
theorem gather_cons (hback : Text.backspace ∉ gathered ++ line) (hlines : lines ≠ []) :
    gather gathered (line :: lines) =
      if isComplete (gathered ++ line) = true then
        (splitReturn (gathered ++ line)).1 :: gather [] lines
      else gather (gathered ++ line ++ ['\n']) lines := by
  obtain ⟨hreturn, htrimmed⟩ := splitReturn_append (gathered ++ line)
  have hkept : Text.backspace ∉ (splitReturn (gathered ++ line)).1 := by
    intro hmem
    rw [← hreturn] at hback
    exact hback (List.mem_append_left _ hmem)
  rw [gather]
  · simp only [Text.eraseBackspaces_of_not_mem hkept, isComplete_congr htrimmed, hreturn]
  · exact hlines

/-- The inputs lie in the text made up of the lines gathered so far and the lines to come. -/
theorem gathered_gather (h : Pending gathered) (hlines : ∀ line ∈ lines, '\n' ∉ line)
    (hback : Text.backspace ∉ gathered ++ ['\n'].intercalate lines) :
    Gathered (gathered ++ ['\n'].intercalate lines) (gather gathered lines) := by
  induction lines generalizing gathered with
  | nil =>
      rw [List.intercalate_nil, List.append_nil, gather]
      exact .unfinished h.finished
  | cons line lines ih =>
      have hline : '\n' ∉ line := hlines line List.mem_cons_self
      cases lines with
      | nil =>
          rw [List.intercalate_singleton] at hback ⊢
          rw [gather_singleton hback]
          by_cases hlast : line ≠ [] ∧ isComplete (gathered ++ line) = true
          · rw [if_pos hlast]
            exact .last hlast.2
          · rw [if_neg hlast]
            refine .unfinished ?_
            by_cases hnil : line = []
            · rw [hnil, List.append_nil]
              exact h.finished
            · refine h.finished_append hline (Bool.eq_false_iff.mpr fun hcomplete => ?_)
              exact hlast ⟨hnil, hcomplete⟩
      | cons next rest =>
          have htext : gathered ++ ['\n'].intercalate (line :: next :: rest) =
              (gathered ++ line) ++ '\n' :: ['\n'].intercalate (next :: rest) := by
            rw [List.intercalate_cons_cons]
            simp
          have hrest : ∀ line ∈ next :: rest, '\n' ∉ line :=
            fun line hmem => hlines line (List.mem_cons_of_mem _ hmem)
          rw [htext] at hback ⊢
          rw [gather_cons (fun hmem => hback (List.mem_append_left _ hmem)) (List.cons_ne_nil _ _)]
          by_cases hcomplete : isComplete (gathered ++ line) = true
          · rw [if_pos hcomplete]
            refine .next hcomplete (splitReturn_append _).2 ?_
            have hbehind : Text.backspace ∉ [] ++ ['\n'].intercalate (next :: rest) :=
              fun hmem => hback (List.mem_append_right _ (List.mem_cons_of_mem _ hmem))
            exact ih (.inl rfl) hrest hbehind
          · rw [if_neg hcomplete, ← List.singleton_append, ← List.append_assoc]
            rw [← List.singleton_append, ← List.append_assoc] at hback
            have hnone := h.finished_append hline (Bool.eq_false_iff.mpr hcomplete)
            exact ih (.inr ⟨_, rfl, hnone⟩) hrest hback

end Gather

/-- The inputs of a text without backspaces. -/
theorem gathered_inputs {text : List Char} (hback : Text.backspace ∉ text) :
    Gathered text (gather [] (text.splitOn '\n')) := by
  have htext : [] ++ ['\n'].intercalate (text.splitOn '\n') = text :=
    List.intercalate_splitOn '\n'
  have hlines : ∀ line ∈ text.splitOn '\n', '\n' ∉ line :=
    fun _ hline => Script.not_mem_of_mem_splitOn hline
  have h := gathered_gather (.inl rfl) hlines (htext.symm ▸ hback)
  rwa [htext] at h

/-! ## Texts cut at their own semicolons -/

/-- A text begins, blanks aside, with no command, and with nothing that the blanks change. -/
structure Leads (cs : List Char) : Prop where
  command : (Text.trimStart cs).head? ≠ some '\\'
  apart : ∀ b ∈ (cs.takeWhile Text.isBlank).getLast?,
    Lexer.isWordPart b = true → Lexer.opensInWord (Text.trimStart cs) = false

instance : DecidablePred Leads := fun cs =>
  decidable_of_iff
    ((Text.trimStart cs).head? ≠ some '\\' ∧ (cs.takeWhile Text.isBlank).getLast?.all (fun b =>
      decide (Lexer.isWordPart b = true → Lexer.opensInWord (Text.trimStart cs) = false)) = true)
    ⟨fun h => ⟨h.1, fun b hb => of_decide_eq_true ((Option.all_eq_true _ _).mp h.2 b hb)⟩,
      fun h => ⟨h.command, (Option.all_eq_true _ _).mpr fun b hb => decide_eq_true (h.apart b hb)⟩⟩

/-- The semicolons that end a line are tokens, and what stands behind them can lead an input. -/
structure Parted (text : List Char) : Prop where
  leads : Leads text
  cuts : ∀ before after, text = before ++ ';' :: after → endsLine after = true →
    Lexer.Closed before ∧ Leads after

theorem parted_iff {text : List Char} :
    Parted text ↔ Leads text ∧ ∀ i < text.length, text[i]? = some ';' →
      endsLine (text.drop (i + 1)) = true →
      Lexer.Closed (text.take i) ∧ Leads (text.drop (i + 1)) := by
  constructor
  · refine fun h => ⟨h.leads, fun i hi hsemicolon hends => h.cuts _ _ ?_ hends⟩
    obtain ⟨_, hget⟩ := List.getElem?_eq_some_iff.mp hsemicolon
    rw [← hget, ← List.drop_eq_getElem_cons hi, List.take_append_drop]
  · refine fun h => ⟨h.1, ?_⟩
    rintro before after rfl hends
    have hcut := h.2 before.length (by simp) (by simp)
    rw [List.drop_length_add_append, List.take_left] at hcut
    exact hcut hends

instance : DecidablePred Parted := fun _ =>
  decidable_of_iff _ parted_iff.symm

section Parted

variable {cs blanks text : List Char}

theorem Leads.of_blanks (hblanks : ∀ b ∈ blanks, Text.isBlank b = true)
    (h : Leads (blanks ++ cs)) : Leads cs := by
  have htrim : Text.trimStart (blanks ++ cs) = Text.trimStart cs :=
    List.dropWhile_append_of_pos hblanks
  have htake : (blanks ++ cs).takeWhile Text.isBlank = blanks ++ cs.takeWhile Text.isBlank :=
    List.takeWhile_append_of_pos hblanks
  refine ⟨htrim ▸ h.command, fun b hb => htrim ▸ h.apart b ?_⟩
  rw [htake, List.getLast?_append, Option.mem_def.mp hb]
  rfl

theorem opensInWord_append_semicolon (hcs : cs ≠ []) (rest : List Char) :
    Lexer.opensInWord (cs ++ ';' :: rest) = Lexer.opensInWord cs := by
  cases cs with
  | nil => exact absurd rfl hcs
  | cons c ds => cases ds <;> simp [Lexer.opensInWord]

/-- The blanks that lead an input with a semicolon at its end. -/
theorem Leads.apart_of_ends {before : List Char} (h : Leads (before ++ ';' :: blanks)) :
    Lexer.Apart (before.takeWhile Text.isBlank) (Text.trimStart before) := by
  intro b hb
  have htake := Lexer.takeWhile_append_cons Text.isBlank_semicolon before blanks
  refine ⟨fun _ hhead => ?_, fun hpart => ?_⟩
  · have hnewline : Text.isBlank '\n' = true := by decide +kernel
    rw [Text.head?_trimStart before '\n' hhead] at hnewline
    cases hnewline
  · have hopens := h.apart b (htake.symm ▸ hb) hpart
    rw [Text.trimStart_append] at hopens
    split at hopens
    · next hnil =>
        rw [hnil]
        rfl
    · next hne => rwa [opensInWord_append_semicolon hne] at hopens

/-- A line feed belongs to nothing behind it. -/
theorem apart_newline (blanks cs : List Char) : Lexer.Apart (blanks ++ ['\n']) cs := by
  intro b hb
  rw [List.getLast?_concat] at hb
  obtain rfl := Option.some.inj hb
  exact ⟨fun hreturn => absurd hreturn (by decide), fun hpart => absurd hpart (by decide +kernel)⟩

theorem blank_append_newline (h : ∀ b ∈ blanks, Text.isBlank b = true) :
    ∀ b ∈ blanks ++ ['\n'], Text.isBlank b = true := by
  intro b hb
  rcases List.mem_append.mp hb with hb | hb
  · exact h b hb
  · rw [List.mem_singleton.mp hb]
    decide +kernel

theorem endsLine_of_blank (h : ∀ b ∈ blanks, Text.isBlank b = true) :
    endsLine blanks = true :=
  List.all_eq_true.mpr fun b hb => h b ((List.takeWhile_subset _) hb)

/-- What stands in the lines behind blanks is parted. -/
theorem Parted.of_blanks (hblanks : ∀ b ∈ blanks, Text.isBlank b = true)
    (h : Parted (blanks ++ '\n' :: text)) : Parted text := by
  have hall := blank_append_newline hblanks
  have htext : blanks ++ '\n' :: text = (blanks ++ ['\n']) ++ text := by simp
  rw [htext] at h
  refine ⟨h.leads.of_blanks hall, ?_⟩
  rintro before after rfl hends
  obtain ⟨hclosed, hleads⟩ := h.cuts _ after (List.append_assoc _ _ _).symm hends
  exact ⟨hclosed.of_blanks hall (apart_newline blanks before), hleads⟩

/-- What stands in the lines behind a semicolon is parted. -/
theorem Parted.of_ends {before : List Char} (hblanks : ∀ b ∈ blanks, Text.isBlank b = true)
    (h : Parted (before ++ ';' :: (blanks ++ '\n' :: text))) :
    Lexer.Closed before ∧ Parted text := by
  have hends : endsLine (blanks ++ '\n' :: text) = true := by
    rw [endsLine_append_newline, endsLine_of_blank hblanks]
  obtain ⟨hclosed, hleads⟩ := h.cuts before _ rfl hends
  refine ⟨hclosed, .of_blanks hblanks ⟨hleads, fun before' after hcut hends' => ?_⟩⟩
  rw [hcut] at h
  obtain ⟨hlonger, hafter⟩ := h.cuts (before ++ ';' :: before') after (by simp) hends'
  exact ⟨hlonger.of_append_semicolon hclosed, hafter⟩

/-- The finished part of a text is read without fault. -/
theorem Parted.exists_lexemes (h : Parted text) :
    ∃ ls, Lexer.lexemes .start (finished text) = .ok ls := by
  by_cases hnil : finished text = []
  · rw [hnil]
    exact ⟨[], by rw [Lexer.lexemes]⟩
  · obtain ⟨before, after, hfinished, hcut, hends⟩ := exists_of_finished hnil
    obtain ⟨ls, hls, hlast⟩ := (h.cuts before after hcut hends).1
    have hread := Lexer.lexemes_append_semicolon hls hlast []
    rw [Lexer.lexemes] at hread
    exact ⟨_, hfinished ▸ hread⟩

end Parted

/-! ## Statements of the inputs -/

section Statements

variable {input before blanks text : List Char} {inputs : List (List Char)}

theorem split_nil : Script.split (String.ofList []) = [] := by
  decide +kernel

theorem toList_trim_ofList (cs : List Char) :
    (Text.trim (String.ofList cs)).toList = Text.trimEnd (Text.trimStart cs) := by
  rw [Text.trim, String.toList_ofList, String.toList_ofList]

theorem trim_ofList_congr {cs ds : List Char}
    (h : Text.trimEnd (Text.trimStart cs) = Text.trimEnd (Text.trimStart ds)) :
    Text.trim (String.ofList cs) = Text.trim (String.ofList ds) := by
  rw [← String.toList_inj, toList_trim_ofList, toList_trim_ofList, h]

theorem trim_of_blank (h : ∀ b ∈ blanks, Text.isBlank b = true) :
    Text.trim (String.ofList blanks) = "" := by
  rw [← String.toList_inj, toList_trim_ofList, Text.trimStart_of_blank h]
  rfl

theorem split_append_concat (h : Lexer.Closed before) :
    Script.split (String.ofList (before ++ [';'])) = Script.split (String.ofList before) := by
  have hnil : Lexer.lexemes .start [] = .ok [] := by rw [Lexer.lexemes]
  rw [Script.split_append_semicolon h hnil, split_nil, List.append_nil]

/-- The statements of an input. -/
def statements (input : String) : List String :=
  Script.split (Text.trim input)

theorem statements_of_blank (h : ∀ b ∈ blanks, Text.isBlank b = true) :
    statements (String.ofList blanks) = [] := by
  rw [statements, trim_of_blank h]
  decide +kernel

/-- Trimming an input changes none of its statements. -/
theorem statements_of_ends (hblanks : ∀ b ∈ blanks, Text.isBlank b = true)
    (hapart : Lexer.Apart (before.takeWhile Text.isBlank) (Text.trimStart before))
    (hclosed : Lexer.Closed before) :
    statements (String.ofList (before ++ ';' :: blanks)) = Script.split (String.ofList before) := by
  have htrim : Text.trim (String.ofList (before ++ ';' :: blanks)) =
      String.ofList (Text.trimStart before ++ [';']) := by
    rw [← String.toList_inj, toList_trim_ofList, Text.trimmed_of_ends hblanks, String.toList_ofList]
  have hbefore : before.takeWhile Text.isBlank ++ Text.trimStart before = before :=
    List.takeWhile_append_dropWhile
  have hled : ∀ b ∈ before.takeWhile Text.isBlank, Text.isBlank b = true :=
    fun b hb => List.mem_takeWhile_imp hb
  have hstill : Lexer.Closed (Text.trimStart before) :=
    Lexer.Closed.of_blanks hled hapart (hbefore.symm ▸ hclosed)
  rw [statements, htrim, split_append_concat hstill, ← Script.split_blanks_append hled hapart,
    hbefore]

theorem split_finished_of_ends (hblanks : ∀ b ∈ blanks, Text.isBlank b = true)
    (hapart : Lexer.Apart (before.takeWhile Text.isBlank) (Text.trimStart before))
    (hclosed : Lexer.Closed before) :
    Script.split (String.ofList (finished (before ++ ';' :: blanks))) =
      statements (String.ofList (before ++ ';' :: blanks)) := by
  rw [finished_of_ends hblanks, split_append_concat hclosed,
    statements_of_ends hblanks hapart hclosed]

theorem split_finished_of_blank (h : ∀ b ∈ blanks, Text.isBlank b = true) :
    Script.split (String.ofList (finished blanks)) = statements (String.ofList blanks) := by
  rw [finished_of_blank h, split_nil, statements_of_blank h]

/-- The statements of an input and of the lines behind it. -/
theorem split_finished_append (hcomplete : isComplete input = true)
    (h : Parted (input ++ '\n' :: text)) :
    Parted text ∧
      Script.split (String.ofList (finished (input ++ '\n' :: text))) =
        statements (String.ofList input) ++ Script.split (String.ofList (finished text)) := by
  rw [finished_append_newline]
  -- A blank input has no statements; the semicolon at the end of any other is a cut of the text.
  rcases blank_or_ends_of_isComplete hcomplete (command_of_append h.leads.command) with
    hblank | ⟨before, blanks, rfl, hblanks⟩
  · refine ⟨h.of_blanks hblank, ?_⟩
    split
    · next hnil => rw [hnil, split_nil, List.append_nil, split_finished_of_blank hblank]
    · have hlines : input ++ '\n' :: finished text = (input ++ ['\n']) ++ finished text := by simp
      rw [hlines, Script.split_blanks_append (blank_append_newline hblank) (apart_newline _ _),
        statements_of_blank hblank, List.nil_append]
  · rw [List.append_assoc, List.cons_append] at h
    obtain ⟨hclosed, hrest⟩ := h.of_ends hblanks
    have hapart := h.leads.apart_of_ends
    refine ⟨hrest, ?_⟩
    split
    · next hnil =>
        rw [hnil, split_nil, List.append_nil, split_finished_of_ends hblanks hapart hclosed]
    · have hall := blank_append_newline hblanks
      have hlines : before ++ ';' :: blanks ++ '\n' :: finished text =
          before ++ ';' :: ((blanks ++ ['\n']) ++ finished text) := by simp
      obtain ⟨ms, hms⟩ := hrest.exists_lexemes
      obtain ⟨ls, hread⟩ := Lexer.exists_lexemes_blanks hall (apart_newline _ _) hms
      rw [hlines, Script.split_append_semicolon hclosed hread,
        Script.split_blanks_append hall (apart_newline _ _),
        statements_of_ends hblanks hapart hclosed]

theorem isCommand_trim (hcommand : (Text.trimStart input).head? ≠ some '\\') :
    Command.isCommand (Text.trim (String.ofList input)) = false := by
  rw [Command.isCommand, toList_trim_ofList]
  obtain ⟨blanks, hend, -⟩ := Text.exists_trimEnd_append (Text.trimStart input)
  refine decide_eq_false fun hhead => hcommand ?_
  rw [← hend, List.head?_append, hhead]
  rfl

/-- The statements of the inputs are those of the finished part of the text. -/
theorem flatMap_statements_of_gathered (hgathered : Gathered text inputs) (h : Parted text) :
    (∀ input ∈ inputs, Command.isCommand (Text.trim (String.ofList input)) = false) ∧
      inputs.flatMap (fun input => statements (String.ofList input)) =
        Script.split (String.ofList (finished text)) := by
  induction hgathered with
  | unfinished hnone =>
      rw [hnone, split_nil]
      exact ⟨List.forall_mem_nil _, rfl⟩
  | @last text hcomplete =>
      have hcommand := isCommand_trim h.leads.command
      refine ⟨fun input hinput => List.mem_singleton.mp hinput ▸ hcommand, ?_⟩
      rw [List.flatMap_cons, List.flatMap_nil, List.append_nil]
      rcases blank_or_ends_of_isComplete hcomplete h.leads.command with
        hblank | ⟨before, blanks, rfl, hblanks⟩
      · rw [split_finished_of_blank hblank]
      · have hclosed := (h.cuts before blanks rfl (endsLine_of_blank hblanks)).1
        rw [split_finished_of_ends hblanks h.leads.apart_of_ends hclosed]
  | @next input kept text inputs hcomplete hkept hgathered ih =>
      obtain ⟨hrest, hsplit⟩ := split_finished_append hcomplete h
      obtain ⟨hnone, hstatements⟩ := ih hrest
      refine ⟨fun other hother => ?_, ?_⟩
      · rcases List.mem_cons.mp hother with rfl | hother
        · rw [trim_ofList_congr hkept]
          exact isCommand_trim (command_of_append h.leads.command)
        · exact hnone other hother
      · rw [List.flatMap_cons, hstatements, hsplit, statements, statements, trim_ofList_congr hkept]

/-- The statements of the inputs of a text are those of its finished part. -/
theorem flatMap_statements_inputs {text : String} (hback : Text.backspace ∉ text.toList)
    (hparted : Parted text.toList) :
    (Shell.inputs text).flatMap statements =
      Script.split (String.ofList (finished text.toList)) := by
  rw [Shell.inputs, List.flatMap_map]
  exact (flatMap_statements_of_gathered (gathered_inputs hback) hparted).2

/-- No input of a text is a command. -/
theorem isCommand_of_mem_inputs {text input : String} (hback : Text.backspace ∉ text.toList)
    (hparted : Parted text.toList) (hinput : input ∈ Shell.inputs text) :
    Command.isCommand (Text.trim input) = false := by
  obtain ⟨cs, hcs, rfl⟩ := List.mem_map.mp hinput
  exact (flatMap_statements_of_gathered (gathered_inputs hback) hparted).1 cs hcs

/-- The statements of a text are those of its finished part and of the rest. -/
theorem split_eq_finished_append {rest : List Char} {tokens : List Token} (h : Parted text)
    (hrest : finished text ++ rest = text) (hscan : Token.scan (String.ofList rest) = .ok tokens) :
    Script.split (String.ofList text) =
      Script.split (String.ofList (finished text)) ++ Script.split (String.ofList rest) := by
  by_cases hnil : finished text = []
  · rw [hnil, List.nil_append] at hrest
    rw [hnil, split_nil, List.nil_append, hrest]
  · obtain ⟨before, after, hfinished, hcut, hends⟩ := exists_of_finished hnil
    have hclosed := (h.cuts before after hcut hends).1
    obtain ⟨ms, hms⟩ := Script.exists_lexemes_of_scan hscan
    rw [String.toList_ofList] at hms
    rw [hfinished, List.append_assoc, List.singleton_append] at hrest
    rw [hfinished, split_append_concat hclosed, ← hrest, Script.split_append_semicolon hclosed hms]

end Statements

/-! ## Execution of the inputs -/

/-- The first of statements that all succeed. -/
theorem attemptUntil_cons {s : Shell} {sql : String} {texts : List String}
    (h : (s.attemptUntil (sql :: texts)).fault = none) :
    (s.attempt sql).fault = none ∧
      s.attemptUntil (sql :: texts) =
        { (s.attempt sql).shell.attemptUntil texts with
          emissions := (s.attempt sql).emissions ++
            ((s.attempt sql).shell.attemptUntil texts).emissions } := by
  rw [attemptUntil] at h ⊢
  cases hfault : (s.attempt sql).fault with
  | some fault => simp [hfault] at h
  | none => exact ⟨rfl, by simp⟩

/-- Statements that all succeed, attempted in two goes. -/
theorem attemptUntil_append {s : Shell} {texts texts' : List String}
    (h : (s.attemptUntil (texts ++ texts')).fault = none) :
    (s.attemptUntil texts).fault = none ∧
      s.attemptUntil (texts ++ texts') =
        { (s.attemptUntil texts).shell.attemptUntil texts' with
          emissions := (s.attemptUntil texts).emissions ++
            ((s.attemptUntil texts).shell.attemptUntil texts').emissions } := by
  induction texts generalizing s with
  | nil => exact ⟨rfl, rfl⟩
  | cons sql texts ih =>
      rw [List.cons_append] at h ⊢
      obtain ⟨hfirst, hall⟩ := attemptUntil_cons h
      rw [hall] at h ⊢
      obtain ⟨hnone, hlater⟩ := ih h
      rw [attemptUntil, if_neg (by simp [hfirst])]
      exact ⟨hnone, by rw [hlater, List.append_assoc]⟩

/-- Statements that all succeed are executed alike whether or not an error would stop them. -/
theorem attemptAll_eq {s : Shell} {texts : List String} (h : (s.attemptUntil texts).fault = none) :
    s.attemptAll texts = ((s.attemptUntil texts).shell, (s.attemptUntil texts).emissions) := by
  induction texts generalizing s with
  | nil => rfl
  | cons sql texts ih =>
      obtain ⟨hfirst, hall⟩ := attemptUntil_cons h
      rw [hall] at h ⊢
      rw [attemptAll]
      simp [hfirst, ih h]

/-- What every input of a conversation does: the shell that it meets, and what it emits. -/
def rounds (s : Shell) : List String → List (Shell × List Emission)
  | [] => []
  | input :: inputs =>
    let turn := s.attemptUntil (statements input)
    (s, turn.emissions) :: turn.shell.rounds inputs

theorem rounds_emissions {s : Shell} {inputs : List String}
    (h : (s.attemptUntil (inputs.flatMap statements)).fault = none) :
    (s.rounds inputs).flatMap Prod.snd =
      (s.attemptUntil (inputs.flatMap statements)).emissions := by
  induction inputs generalizing s with
  | nil => rfl
  | cons input inputs ih =>
      rw [List.flatMap_cons] at h ⊢
      obtain ⟨-, hsplit⟩ := attemptUntil_append h
      rw [hsplit] at h ⊢
      rw [rounds, List.flatMap_cons, ih h]

end Shell

namespace CommandLine

section Converse

variable (read : String → Except FileError String) {c : Conversation} {input : String}
  {inputs : List String}

/-- One script of a conversation. -/
theorem exists_converse_cons (inputs : List String)
    (hscript : Command.isCommand (Text.trim input) = false)
    (h : (c.shell.attemptUntil (Shell.statements input)).fault = none) :
    let turn := c.shell.attemptUntil (Shell.statements input)
    ∃ history, converse read c (input :: inputs) =
      converse read
        ⟨turn.shell, history, c.emissions ++ ask c.plainTerminal c.shell ++ turn.emissions,
          c.plainTerminal⟩ inputs := by
  rw [converse]
  by_cases hline : Text.trim input = ""
  · have hnone : Shell.statements input = [] := by
      rw [Shell.statements, hline]
      decide +kernel
    simp only [if_pos hline, hnone]
    exact ⟨c.history, by simp [Shell.attemptUntil, Conversation.asked]⟩
  · have hturn := Shell.attemptAll_eq h
    rw [Shell.statements] at hturn
    simp only [if_neg hline, Shell.process, hscript, Shell.runScript, hturn]
    exact ⟨c.history.add (Text.trim input), by simp [Conversation.asked, Shell.statements]⟩

/-- A conversation over scripts whose statements all succeed executes these statements, and asks
for every input. -/
theorem converse_of_scripts
    (hscripts : ∀ input ∈ inputs, Command.isCommand (Text.trim input) = false)
    (h : (c.shell.attemptUntil (inputs.flatMap Shell.statements)).fault = none) :
    let turn := c.shell.attemptUntil (inputs.flatMap Shell.statements)
    (converse read c inputs).shell = turn.shell ∧
      (converse read c inputs).emissions =
        c.emissions ++
          (c.shell.rounds inputs).flatMap (fun round => ask c.plainTerminal round.1 ++ round.2) ++
          ask c.plainTerminal turn.shell ++ [Shell.line "\\q"] := by
  induction inputs generalizing c with
  | nil => simp [converse, Conversation.asked, Shell.attemptUntil, Shell.rounds]
  | cons input inputs ih =>
      rw [List.flatMap_cons] at h ⊢
      obtain ⟨hfirst, hsplit⟩ := Shell.attemptUntil_append h
      rw [hsplit] at h ⊢
      obtain ⟨history, hcons⟩ :=
        exists_converse_cons read inputs (hscripts input List.mem_cons_self) hfirst
      have hrest := fun other hother => hscripts other (List.mem_cons_of_mem input hother)
      rw [hcons]
      obtain ⟨hshell, hemissions⟩ := ih (c := ⟨_, history, _, c.plainTerminal⟩) hrest h
      refine ⟨hshell, hemissions.trans ?_⟩
      rw [Shell.rounds]
      simp

/-- A script without backspaces whose line-ending semicolons are tokens, and behind them no command
follows, is executed on a pipe up to the last of these semicolons: its inputs are scripts, and
have the statements of this part of the script. If these succeed, the conversation ends with the
same shell as the execution of the part from a file, and emits the same, apart from asking for
every input. The rest of the script, where no semicolon ends a line, is not executed. -/
theorem pipe_executes_finished (text : String) (hback : Text.backspace ∉ text.toList)
    (hparted : Shell.Parted text.toList) :
    ∃ part rest : String,
      text = part ++ rest ∧ part.toList = Shell.finished text.toList ∧
      (∀ before after, rest.toList = before ++ ';' :: after → Shell.endsLine after = false) ∧
      (∀ tokens, Token.scan rest = .ok tokens →
        Script.split text = Script.split part ++ Script.split rest) ∧
      (∀ input ∈ Shell.inputs text, Command.isCommand (Text.trim input) = false) ∧
      (Shell.inputs text).flatMap Shell.statements = Script.split part ∧
      ∀ (read : String → Except FileError String) (c : Conversation),
        (c.shell.runStrictly part).fault = none →
        (converse read c (Shell.inputs text)).shell = (c.shell.runStrictly part).shell ∧
        (c.shell.rounds (Shell.inputs text)).flatMap Prod.snd =
          (c.shell.runStrictly part).emissions ∧
        (converse read c (Shell.inputs text)).emissions =
          c.emissions ++
            (c.shell.rounds (Shell.inputs text)).flatMap
              (fun round => ask c.plainTerminal round.1 ++ round.2) ++
            ask c.plainTerminal (c.shell.runStrictly part).shell ++ [Shell.line "\\q"] := by
  obtain ⟨rest, hrest, hnone⟩ := Shell.exists_finished_append text.toList
  have htext : text = String.ofList (Shell.finished text.toList) ++ String.ofList rest := by
    rw [← String.ofList_append, hrest, String.ofList_toList]
  have hscripts : ∀ input ∈ Shell.inputs text, Command.isCommand (Text.trim input) = false :=
    fun _ => Shell.isCommand_of_mem_inputs hback hparted
  have hstatements := Shell.flatMap_statements_inputs hback hparted
  refine ⟨_, _, htext, String.toList_ofList, ?_, fun tokens hscan => ?_, hscripts, hstatements, ?_⟩
  · rwa [String.toList_ofList]
  · rw [← Shell.split_eq_finished_append hparted hrest hscan, String.ofList_toList]
  · intro read c hok
    rw [Shell.runStrictly, ← hstatements] at hok ⊢
    obtain ⟨hshell, hemissions⟩ := converse_of_scripts read hscripts hok
    exact ⟨hshell, Shell.rounds_emissions hok, hemissions⟩

/-- A comment with a semicolon inside a line, a statement of two lines, and a last statement that
is never executed. -/
theorem pipe_executes_finished_of_lines :
    Text.backspace ∉ "CREATE TABLE t (a);\nDELETE FROM t -- b; c\n;\nDROP".toList ∧
      Shell.Parted "CREATE TABLE t (a);\nDELETE FROM t -- b; c\n;\nDROP".toList ∧
      (Shell.inputs "CREATE TABLE t (a);\nDELETE FROM t -- b; c\n;\nDROP").flatMap
          Shell.statements =
        Script.split "CREATE TABLE t (a);\nDELETE FROM t -- b; c\n;" ∧
      ∀ (read : String → Except FileError String) (c : Conversation),
        c.shell = .create .default .table →
        (converse read c
            (Shell.inputs "CREATE TABLE t (a);\nDELETE FROM t -- b; c\n;\nDROP")).shell =
          (c.shell.runStrictly "CREATE TABLE t (a);\nDELETE FROM t -- b; c\n;").shell := by
  have hback : Text.backspace ∉
      "CREATE TABLE t (a);\nDELETE FROM t -- b; c\n;\nDROP".toList := by
    decide +kernel
  have hparted : Shell.Parted
      "CREATE TABLE t (a);\nDELETE FROM t -- b; c\n;\nDROP".toList := by
    decide +kernel
  obtain ⟨part, rest, -, hpart, -, -, -, hstatements, hexecutes⟩ :=
    pipe_executes_finished _ hback hparted
  obtain rfl : part = "CREATE TABLE t (a);\nDELETE FROM t -- b; c\n;" := by
    rw [← String.toList_inj, hpart]
    decide +kernel
  refine ⟨hback, hparted, hstatements, fun read c hc => (hexecutes read c ?_).1⟩
  rw [hc]
  decide +kernel

/-- A statement without a semicolon behind it is executed from a file, but not on a pipe, where a
semicolon that ends a line inside a comment ends the input all the same. -/
theorem pipe_drops_unfinished :
    (¬ ∀ (text : String) (read : String → Except FileError String) (c : Conversation),
      (∀ line ∈ text.toList.splitOn '\n', line.head? ≠ some '\\') →
      (c.shell.runStrictly text).fault = none →
      (Shell.inputs text).flatMap Shell.statements = Script.split text ∧
        (converse read c (Shell.inputs text)).shell = (c.shell.runStrictly text).shell) ∧
    (Shell.inputs "CREATE TABLE t (a) /*;\n*/;").flatMap Shell.statements =
        ["CREATE TABLE t (a) /*;", "*/"] ∧
      Script.split "CREATE TABLE t (a) /*;\n*/;" = ["CREATE TABLE t (a) /*;\n*/"] := by
  constructor
  · intro h
    obtain ⟨hstatements, -⟩ := h "CREATE TABLE t (a)" Files.empty.read
      ⟨.create .default .table, .empty 0, [], false⟩ (by decide +kernel) (by decide +kernel)
    have hnone : (Shell.inputs "CREATE TABLE t (a)").flatMap Shell.statements =
        Script.split (String.ofList (Shell.finished "CREATE TABLE t (a)".toList)) :=
      Shell.flatMap_statements_inputs (by decide +kernel) (by decide +kernel)
    have hdiffer : Script.split (String.ofList (Shell.finished "CREATE TABLE t (a)".toList)) ≠
        Script.split "CREATE TABLE t (a)" := by
      decide +kernel
    exact hdiffer (hnone.symm.trans hstatements)
  · have hlines : "CREATE TABLE t (a) /*;\n*/;".toList.splitOn '\n' =
        ["CREATE TABLE t (a) /*;".toList, "*/;".toList] := by
      decide +kernel
    have hinputs : Shell.inputs "CREATE TABLE t (a) /*;\n*/;" =
        ["CREATE TABLE t (a) /*;", "*/;"] := by
      rw [Shell.inputs, hlines, Shell.gather_cons (by decide +kernel) (by simp),
        Shell.gather_singleton (by decide +kernel)]
      decide +kernel
    rw [hinputs]
    decide +kernel

end Converse

end CommandLine

end MiniSql
