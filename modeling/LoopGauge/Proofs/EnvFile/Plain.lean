import LoopGauge.EnvFile.Check
import LoopGauge.Proofs.EnvFile.Readable
import LoopGauge.Proofs.Settings.Merge
import LoopGauge.Proofs.Text.Trim

/-!
# Two readers of a line

A line of an env file is read when the file is loaded, and cut at its first equals sign when the
file is checked. Both see the same variable unless the line starts with `export`, and the same
value unless it is quoted, escaped, refers to another variable or is followed by a comment.

## Main definitions

* `Value.isLiteral`: a character that stands for itself.
* `Plain`: a line that sets the variables of the program without any of these.

## Main statements

* `exists_cut_of_read`: where the two readers cut a line.
* `lineWarning?_eq`: a plain line is warned about for what is loaded from it.
-/

namespace LoopGauge

open Text

/-- What stands before the first separator, and after it. -/
theorem Text.cutAt?_append {sep : Char} {before : List Char} (h : ∀ c ∈ before, c ≠ sep)
    (after : List Char) : cutAt? sep (before ++ sep :: after) = some (before, after) := by
  induction before with
  | nil => simp [cutAt?]
  | cons c before ih =>
    have hc := h c List.mem_cons_self
    rw [List.cons_append, cutAt?, if_neg (by simpa using hc),
      ih fun d hd => h d (List.mem_cons_of_mem c hd)]
    rfl

/-- What stands after the last blank. -/
def Text.lastWord (cs : List Char) : List Char := cs.rtakeWhile fun c => !isBlank c

theorem Text.lastWord_append_word {front word : List Char} (hword : ∀ c ∈ word, ¬isBlank c)
    (hfront : ∀ c, front.getLast? = some c → isBlank c) : lastWord (front ++ word) = word := by
  have hall : ∀ c ∈ word.reverse, (!isBlank c) = true := by
    intro c hc
    simpa using hword c (List.mem_reverse.1 hc)
  have hend : front.reverse.takeWhile (fun c => !isBlank c) = [] := by
    obtain rfl | ⟨front, c, rfl⟩ := List.eq_nil_or_concat front
    · rfl
    · have hc := hfront c (by simp)
      simp [hc]
  rw [lastWord, List.rtakeWhile, List.reverse_append, List.takeWhile_append_of_pos hall, hend,
    List.append_nil, List.reverse_reverse]

namespace Variable

variable {v : Variable} {name value value' : String}

theorem ofName?_eq_some_iff : ofName? name = some v ↔ v.name = name := by
  constructor
  · intro h
    simpa using List.find?_some h
  · rintro rfl
    cases v <;> rfl

theorem objectionTo?_eq (name value : String) :
    objectionTo? name value = (ofName? name).bind fun v => v.objection? value := rfl

/-- Blanks around a value make no difference to what is wrong with it. -/
theorem objection?_congr (v : Variable) (h : trimmed value = trimmed value') :
    v.objection? value = v.objection? value' := by
  unfold objection?
  rw [h]

theorem head?_name_ne (v : Variable) : v.name.toList.head? ≠ some 'e' := by
  cases v <;> decide

end Variable

namespace EnvFile

namespace Cursor

variable {c d : Cursor} {key : String} {x : Char}

theorem range_of_isAlphanum (h : x.isAlphanum) : 48 ≤ x.toNat ∧ x.toNat ≤ 122 := by
  obtain hletter | hdigit := Bool.or_eq_true_iff.1 h
  · obtain hupper | hlower := Bool.or_eq_true_iff.1 hletter
    · have hrange := of_decide_eq_true hupper
      change 65 ≤ x.toNat ∧ x.toNat ≤ 90 at hrange
      omega
    · obtain ⟨hlow, hhigh⟩ := Bool.and_eq_true_iff.1 hlower
      have hlow : 97 ≤ x.toNat := of_decide_eq_true hlow
      have hhigh : x.toNat ≤ 122 := of_decide_eq_true hhigh
      omega
  · obtain ⟨hlow, hhigh⟩ := Char.isDigit_iff_toNat.1 hdigit
    exact ⟨hlow, Nat.le_trans hhigh (by decide)⟩

theorem not_isBlank_of_continuesKey (h : continuesKey x) : ¬isBlank x := by
  simp only [continuesKey, Bool.or_eq_true, beq_iff_eq] at h
  obtain (hx | rfl) | rfl := h
  · have hrange := range_of_isAlphanum hx
    simp only [isBlank, Bool.or_eq_true, Bool.and_eq_true, decide_eq_true_eq, beq_iff_eq]
    omega
  · decide
  · decide

theorem ne_equals_of_continuesKey (h : continuesKey x) : x ≠ '=' := by
  rintro rfl
  exact absurd h (by decide)

theorem ne_equals_of_isBlank (h : isBlank x) : x ≠ '=' := by
  rintro rfl
  exact absurd h (by decide)

theorem takeWhile_append_skip (accepts : Char → Bool) (c : Cursor) :
    c.rest.takeWhile accepts ++ (c.skip accepts).rest = c.rest :=
  List.takeWhile_append_dropWhile

/-- A key is made of its characters, and only blanks follow it. -/
structure Reads (c : Cursor) (key : String) (gap : List Char) (d : Cursor) : Prop where
  ne_nil : key.toList ≠ []
  continues : ∀ x ∈ key.toList, continuesKey x
  blank : ∀ x ∈ gap, isBlank x
  stops : gap = [] → ∀ x, d.rest.head? = some x → ¬continuesKey x
  rest : c.rest = key.toList ++ gap ++ d.rest

theorem exists_reads_of_key? (h : c.key? = some (key, d)) : ∃ gap, c.Reads key gap d := by
  rw [key?] at h
  split at h
  next first rest hrest =>
    split at h
    next hfirst =>
      obtain ⟨rfl, rfl⟩ := Prod.mk.inj (Option.some.inj h)
      have hcontinues : continuesKey first := by
        simp only [startsKey, continuesKey, Char.isAlphanum, Bool.or_eq_true] at hfirst ⊢
        tauto
      refine ⟨(c.skip continuesKey).rest.takeWhile isBlank, ?_, ?_, ?_, ?_, ?_⟩
      · simp [hrest, hcontinues]
      · intro x hx
        rw [String.toList_ofList] at hx
        exact List.mem_takeWhile_imp hx
      · intro x hx
        exact List.mem_takeWhile_imp hx
      · intro hgap x hx
        have hall := takeWhile_append_skip isBlank (c.skip continuesKey)
        rw [hgap, List.nil_append] at hall
        have hstop := List.head?_dropWhile_not continuesKey c.rest
        rw [skipBlanks, hall, skip] at hx
        rw [hx] at hstop
        simpa using hstop
      · rw [String.toList_ofList, List.append_assoc, skipBlanks, takeWhile_append_skip,
          takeWhile_append_skip]
    next => cases h
  next => cases h

theorem Reads.ne_equals {gap : List Char} (h : c.Reads key gap d) :
    ∀ x ∈ key.toList ++ gap, x ≠ '=' := by
  intro x hx
  obtain hx | hx := List.mem_append.1 hx
  · exact ne_equals_of_continuesKey (h.continues x hx)
  · exact ne_equals_of_isBlank (h.blank x hx)

theorem Reads.lastWord_append {gap : List Char} (h : c.Reads key gap d) (front : List Char)
    (hfront : ∀ x, front.getLast? = some x → isBlank x) :
    lastWord (front ++ key.toList) = key.toList :=
  lastWord_append_word (fun x hx => not_isBlank_of_continuesKey (h.continues x hx)) hfront

/-- The blanks after a key are dropped, and no blank of what may stand before it. -/
theorem Reads.trim_append {gap : List Char} (h : c.Reads key gap d) (front : List Char)
    (hfront : ∀ x, front.head? = some x → ¬isBlank x) :
    trim (front ++ (key.toList ++ gap)) = front ++ key.toList := by
  rw [← List.append_assoc, trim_append_of_isBlank h.blank]
  refine trim_eq_self (fun x hx => ?_) fun x hx => ?_
  · rw [List.head?_append, Option.or_eq_some_iff] at hx
    obtain hx | ⟨-, hx⟩ := hx
    · exact hfront x hx
    · exact not_isBlank_of_continuesKey (h.continues x (List.mem_of_head? hx))
  · rw [List.getLast?_append_of_ne_nil _ h.ne_nil] at hx
    exact not_isBlank_of_continuesKey (h.continues x (List.mem_of_getLast? hx))

theorem rest_of_equals? (h : c.equals? = some d) : c.rest = '=' :: d.rest := by
  rw [equals?] at h
  split at h
  next rest hrest =>
    obtain rfl := Option.some.inj h
    exact hrest
  next => cases h

end Cursor

namespace Assignment

variable {line : List Char} {start c : Cursor} {key : String}

/-- Before the equals sign of a line stands its key, perhaps after the word `export`. -/
theorem exists_before_of_readKey (h : readKey line start = .ok (key, c)) :
    ∃ before, start.rest = before ++ '=' :: c.rest ∧ (∀ x ∈ before, x ≠ '=') ∧
      lastWord (trim before) = key.toList ∧
      (trim before = key.toList ∨ (trim before).head? = some 'e') := by
  obtain ⟨⟨first, c₁⟩, hfirst, h⟩ := bind_eq_ok_iff.1 h
  obtain ⟨gap, hreads⟩ := Cursor.exists_reads_of_key? (expect_eq_ok_iff.1 hfirst)
  dsimp only at h
  split at h
  next c₂ hequals =>
    obtain ⟨rfl, rfl⟩ := Prod.mk.inj (Except.ok.inj h)
    have htrim : trim (first.toList ++ gap) = first.toList := hreads.trim_append [] (by simp)
    refine ⟨first.toList ++ gap, ?_, hreads.ne_equals, ?_, .inl htrim⟩
    · rw [hreads.rest, Cursor.rest_of_equals? hequals]
    · rw [htrim]
      exact hreads.lastWord_append [] (by simp)
  next =>
    split at h
    next hexport =>
      obtain ⟨⟨second, c₂⟩, hsecond, h⟩ := bind_eq_ok_iff.1 h
      obtain ⟨c₃, hequals, h⟩ := bind_eq_ok_iff.1 h
      obtain ⟨rfl, rfl⟩ := Prod.mk.inj (Except.ok.inj h)
      obtain ⟨gap₂, hreads₂⟩ := Cursor.exists_reads_of_key? (expect_eq_ok_iff.1 hsecond)
      have hhead (rest : List Char) : (first.toList ++ gap ++ rest).head? = some 'e' := by
        subst hexport
        rfl
      have htrim : trim (first.toList ++ gap ++ (second.toList ++ gap₂)) =
          first.toList ++ gap ++ second.toList := by
        refine hreads₂.trim_append _ fun x hx => ?_
        rw [← List.append_nil (first.toList ++ gap), hhead] at hx
        obtain rfl := Option.some.inj hx
        decide
      refine ⟨first.toList ++ gap ++ (second.toList ++ gap₂), ?_, ?_, ?_, .inr ?_⟩
      · rw [hreads.rest, hreads₂.rest, Cursor.rest_of_equals? (expect_eq_ok_iff.1 hequals)]
        simp only [List.append_assoc]
      · intro x hx
        obtain hx | hx := List.mem_append.1 hx
        · exact hreads.ne_equals x hx
        · exact hreads₂.ne_equals x hx
      · rw [htrim]
        refine hreads₂.lastWord_append _ fun x hx => ?_
        have hgap : gap ≠ [] := by
          -- Without blanks in between, the second name would go on with the first.
          intro hgap
          obtain ⟨y, ys, hsecond⟩ := List.exists_cons_of_ne_nil hreads₂.ne_nil
          have hy := hreads₂.continues y (hsecond ▸ List.mem_cons_self)
          exact hreads.stops hgap y (by simp [hreads₂.rest, hsecond]) hy
        rw [List.getLast?_append_of_ne_nil _ hgap] at hx
        exact hreads.blank x (List.mem_of_getLast? hx)
      · rw [htrim]
        exact hhead _
    next => cases h

/-- Where the two readers cut a line that makes an assignment, and what is read of the rest. -/
theorem exists_cut_of_read {resolve : String → String} {a : Assignment}
    (h : read resolve line = .ok (some a)) :
    ¬isOver (trim line) ∧ ∃ before after, cutAt? '=' (trim line) = some (before, after) ∧
      lastWord (trim before) = a.key.toList ∧
      (trim before = a.key.toList ∨ (trim before).head? = some 'e') ∧
      ((isOver (trimStart after) ∧ a.value = "") ∨
        Value.read resolve (trimStart after) = .ok a.value) := by
  rw [read] at h
  split at h
  · cases h
  next hover =>
    obtain ⟨⟨key, c⟩, hkey, h⟩ := bind_eq_ok_iff.1 h
    obtain ⟨before, hrest, hbefore, hword, hexport⟩ := exists_before_of_readKey hkey
    have hline : trim line = before ++ '=' :: c.rest := by
      rw [← trimStart_trimEnd]
      exact hrest
    refine ⟨by rwa [← trimStart_trimEnd], before, c.rest, ?_⟩
    rw [hline, cutAt?_append hbefore]
    dsimp only at h
    split at h
    next hover =>
      cases h
      exact ⟨rfl, hword, hexport, .inl ⟨hover, rfl⟩⟩
    next =>
      obtain ⟨value, hvalue, h⟩ := bind_eq_ok_iff.1 h
      cases h
      exact ⟨rfl, hword, hexport, .inr hvalue⟩

/-- A line that makes no assignment is blank or a comment. -/
theorem isOver_of_read {resolve : String → String} (h : read resolve line = .ok none) :
    isOver (trim line) := by
  rw [read] at h
  split at h
  next hover =>
    rw [← trimStart_trimEnd]
    exact hover
  next =>
    obtain ⟨⟨key, c⟩, hkey, h⟩ := bind_eq_ok_iff.1 h
    dsimp only at h
    split at h
    · cases h
    · obtain ⟨value, hvalue, h⟩ := bind_eq_ok_iff.1 h
      cases h

end Assignment

namespace Value

variable {resolve : String → String} {cs : List Char}

/-- A character that stands for itself in a value. -/
def isLiteral (c : Char) : Bool := !List.contains ['$', '\'', '"', '\\', ' ', '\t'] c

theorem scan_of_literal (h : ∀ c ∈ cs, isLiteral c) (index : Nat) :
    scan resolve .plain index cs = .ok cs := by
  induction cs generalizing index with
  | nil => rfl
  | cons c cs ih =>
    have hc : step resolve .plain c = .go .plain [c] := by
      have hliteral := h c List.mem_cons_self
      simp [isLiteral] at hliteral
      simp [step, hliteral]
    rw [scan, hc]
    simp only [ih fun d hd => h d (List.mem_cons_of_mem c hd)]
    rfl

theorem read_of_literal (h : ∀ c ∈ cs, isLiteral c) : read resolve cs = .ok (String.ofList cs) := by
  rw [read, scan_of_literal h]

end Value

/-- A line that sets a variable of the program, if it does, without the word `export` and to a
value without quotes, escapes, references and comments. -/
def Plain (line : List Char) : Prop :=
  (trim line).head? ≠ some '#' → ∀ cut ∈ cutAt? '=' (trim line), ∀ v ∈ Variable.all,
    lastWord (trim cut.1) = v.name.toList → trim cut.1 = v.name.toList ∧
      (trimStart cut.2).all Value.isLiteral ∧ (trimStart cut.2).head? ≠ some '#'

instance (line : List Char) : Decidable (Plain line) := by
  delta Plain
  infer_instance

/-- What is said of a line for what is wrong with its value. -/
def lineWarning (line : List Char) (fault : Fault) : String :=
  "Line '" ++ String.ofList (trim line) ++ "': " ++ fault.display

theorem lineWarning?_of_isOver {line : List Char} (h : Assignment.isOver (trim line)) :
    lineWarning? line = none :=
  if_pos h

theorem lineWarning?_of_cut {line before after : List Char} (h : ¬Assignment.isOver (trim line))
    (hcut : cutAt? '=' (trim line) = some (before, after)) :
    lineWarning? line = (Variable.objectionTo? (String.ofList (trim before))
      (String.ofList after)).map (lineWarning line) := by
  refine (if_neg h).trans ?_
  rw [hcut, Option.map_eq_bind]
  rfl

theorem trimmed_trimStart (cs : List Char) :
    trimmed (String.ofList (trimStart cs)) = trimmed (String.ofList cs) := by
  rw [trimmed, trimmed, String.toList_ofList, String.toList_ofList, trim_trimStart]

/-- A literal value is loaded as it is written. -/
theorem value_eq_of_literal {resolve : String → String} {cs : List Char} {value : String}
    (hliteral : ∀ c ∈ cs, Value.isLiteral c) (hhead : cs.head? ≠ some '#')
    (h : (Assignment.isOver cs ∧ value = "") ∨ Value.read resolve cs = .ok value) :
    value = String.ofList cs := by
  obtain ⟨hover, rfl⟩ | h := h
  · have hnil : cs = [] := by simpa [Assignment.isOver, hhead] using hover
    rw [hnil]
  · rw [Value.read_of_literal hliteral] at h
    exact (Except.ok.inj h).symm

/-- A plain line is warned about for what is loaded from it. -/
theorem lineWarning?_eq {resolve : String → String} {line : List Char} {made : Option Assignment}
    (hplain : Plain line) (h : Assignment.read resolve line = .ok made) :
    lineWarning? line = (made.bind fun a => Variable.objectionTo? a.key a.value).map
      (lineWarning line) := by
  cases made with
  | none =>
    rw [lineWarning?_of_isOver (Assignment.isOver_of_read h), Option.bind_none, Option.map_none]
  | some a =>
    obtain ⟨hover, before, after, hcut, hword, hexport, hvalue⟩ :=
      Assignment.exists_cut_of_read h
    rw [lineWarning?_of_cut hover hcut, Option.bind_some]
    congr 1
    have hcomment : (trim line).head? ≠ some '#' := by
      rw [Assignment.isOver, Bool.or_eq_true, not_or] at hover
      simpa using hover.2
    have hplain := hplain hcomment _ hcut
    cases hname : Variable.ofName? a.key with
    | some v =>
      have hv : v.name = a.key := Variable.ofName?_eq_some_iff.1 hname
      have hlast : lastWord (trim before) = v.name.toList := by rw [hword, hv]
      obtain ⟨hkey, hliteral, hhead⟩ := hplain v v.mem_all hlast
      have hloaded := value_eq_of_literal (List.all_eq_true.1 hliteral) hhead hvalue
      rw [hkey, String.ofList_toList, Variable.objectionTo?_eq, Variable.objectionTo?_eq, hname,
        Variable.ofName?_eq_some_iff.2 rfl, hloaded, Option.bind_some, Option.bind_some]
      exact v.objection?_congr (trimmed_trimStart after).symm
    | none =>
      -- No name of the program starts as the word `export` does.
      have hcut : Variable.ofName? (String.ofList (trim before)) = none := by
        rw [Option.eq_none_iff_forall_ne_some]
        intro u hu
        have hu : u.name.toList = trim before := by
          rw [Variable.ofName?_eq_some_iff.1 hu, String.toList_ofList]
        obtain hkey | hexport := hexport
        · have hkey : u.name = a.key := String.toList_inj.1 (hu.trans hkey)
          rw [← hkey, Variable.ofName?_eq_some_iff.2 rfl] at hname
          cases hname
        · exact u.head?_name_ne (hu ▸ hexport)
      rw [Variable.objectionTo?_eq, Variable.objectionTo?_eq, hname, hcut, Option.bind_none,
        Option.bind_none]

end EnvFile

end LoopGauge
