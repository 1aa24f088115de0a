import LoopGauge.Proofs.EnvFile.Plain
import LoopGauge.Proofs.Settings.Warnings

/-!
# Checking an env file and loading it

A file is checked line by line, without the readings and the rules that loading it goes by. For
files that set the variables of the program plainly and each of them at most once, this is enough:
there is nothing to warn about exactly if what the file gives can be read. For other files neither
direction holds.

## Main statements

* `check_agrees`: checking a plain file tells whether its values can be read.
* `check_disagrees`: a quoted value is warned about in vain, an exported one is passed over.
-/

namespace LoopGauge.EnvFile

open Text

namespace Loading

variable {l l' : Loading} {ls : List (List Char)}

theorem exists_read_of_line {s : String} (h : l.line (.text s) = .ok l') :
    ∃ made, Assignment.read l.resolve s.toList = .ok made ∧ l.assignment? (.text s) = made := by
  rw [line] at h
  rw [assignment?]
  cases hread : Assignment.read l.resolve s.toList with
  | error p =>
    rw [hread] at h
    cases h
  | ok made => exact ⟨made, rfl, rfl⟩

/-- Nothing is said of plain lines exactly if there is nothing wrong with what they assign. -/
theorem lineWarning?_eq_none_iff (hplain : ∀ line ∈ ls, Plain line)
    (h : (l.lines (ls.map fun line => .text (String.ofList line))).2 = none) :
    (∀ line ∈ ls, lineWarning? line = none) ↔
      ∀ a ∈ l.assignments (ls.map fun line => .text (String.ofList line)),
        Variable.objectionTo? a.key a.value = none := by
  induction ls generalizing l with
  | nil => simp [assignments]
  | cons line ls ih =>
    rw [List.map_cons, lines] at h
    cases hline : l.line (.text (String.ofList line)) with
    | error f =>
      rw [hline] at h
      cases h
    | ok l' =>
      rw [hline] at h
      obtain ⟨made, hread, hmade⟩ := exists_read_of_line hline
      rw [String.toList_ofList] at hread
      have hhead : lineWarning? line = none ↔
          ∀ a ∈ made.toList, Variable.objectionTo? a.key a.value = none := by
        rw [lineWarning?_eq (hplain line List.mem_cons_self) hread]
        cases made <;> simp
      rw [List.map_cons, assignments, hline, hmade, List.forall_mem_cons, List.forall_mem_append,
        hhead, ih (fun line hmem => hplain line (List.mem_cons_of_mem _ hmem)) h]

end Loading

section Files

variable {env : Environment} {content : String}

theorem warnings_eq_nil_iff (hload : (load env (.file (.text content))).2 = none)
    (hplain : ∀ line ∈ lines content.toList, Plain line) :
    warnings content = [] ↔ ∀ a ∈ assignments env (.file (.text content)),
      Variable.objectionTo? a.key a.value = none := by
  rw [warnings, List.filterMap_eq_nil_iff]
  exact Loading.lineWarning?_eq_none_iff hplain hload

theorem mem_of_firstValue? {as : List Assignment} {name value : String}
    (h : firstValue? name as = some value) : ⟨name, value⟩ ∈ as := by
  obtain ⟨a, ha, rfl⟩ := Option.map_eq_some_iff.1 h
  have hkey : a.key = name := by simpa using List.find?_some ha
  subst hkey
  exact List.mem_of_find?_eq_some ha

/-- An assignment without another to its variable is the first. -/
theorem firstValue?_of_single {as : List Assignment} {a : Assignment} (ha : a ∈ as)
    (hsingle : (as.filter (·.key = a.key)).length ≤ 1) :
    firstValue? a.key as = some a.value := by
  have hmem : a ∈ as.filter (·.key = a.key) := List.mem_filter.2 ⟨ha, by simp⟩
  obtain ⟨b, hfilter⟩ := List.length_eq_one_iff.1
    (Nat.le_antisymm hsingle (List.length_pos_of_mem hmem))
  rw [hfilter, List.mem_singleton] at hmem
  rw [firstValue?, ← List.head?_filter, hfilter, hmem]
  rfl

/-- **Checking agrees with loading** for a file that loads into an environment without variables of
the program and that sets these plainly: if there is nothing to warn about, the values of the file
can be read, and conversely if none of the variables is assigned twice. -/
theorem check_agrees (path : RawText) (hunset : ∀ v : Variable, env.read? v.name = none)
    (hload : (load env (.file (.text content))).2 = none)
    (hplain : ∀ line ∈ lines content.toList, Plain line) :
    (check path (.file (.text content)) = .ok (some []) →
        (load env (.file (.text content))).1.Loads) ∧
      ((∀ v : Variable, ((assignments env (.file (.text content))).filter
          (·.key = v.name)).length ≤ 1) →
        (load env (.file (.text content))).1.Loads →
          check path (.file (.text content)) = .ok (some [])) := by
  have hread (v : Variable) : (load env (.file (.text content))).1.read? v.name =
      firstValue? v.name (assignments env (.file (.text content))) := by
    rw [read?_load hload, hunset, Option.none_or]
  have hcheck : check path (.file (.text content)) = .ok (some []) ↔
      ∀ a ∈ assignments env (.file (.text content)),
        Variable.objectionTo? a.key a.value = none := by
    rw [← warnings_eq_nil_iff hload hplain, check]
    simp
  rw [hcheck, Environment.loads_iff]
  constructor
  · intro hnone v value hvalue
    rw [hread] at hvalue
    have h := hnone _ (mem_of_firstValue? hvalue)
    rwa [Variable.objectionTo?_eq, Variable.ofName?_eq_some_iff.2 rfl, Option.bind_some] at h
  · intro hsingle hloads a ha
    rw [Variable.objectionTo?_eq, Option.bind_eq_none_iff]
    intro v hname
    have hv := Variable.ofName?_eq_some_iff.1 hname
    refine hloads v a.value ?_
    rw [hread, hv]
    exact firstValue?_of_single ha (hv ▸ hsingle v)

/-- A file with a comment, blanks around an equals sign, and a quoted value of another program. -/
theorem check_agrees_two_variables :
    let content := "# short\nLOOPBACK_BUDGET_MS = 500\nexport NAME=\"x y\"\nENABLE_COLOR=false\n"
    (∀ v : Variable, ({} : Environment).read? v.name = none) ∧
      (load {} (.file (.text content))).2 = none ∧
      (∀ line ∈ lines content.toList, Plain line) ∧
      (load {} (.file (.text content))).1.Loads ∧
      check (.text ".env") (.file (.text content)) = .ok (some []) := by
  intro content
  have hload : (load {} (.file (.text content))).2 = none := by decide +kernel
  have hplain : ∀ line ∈ lines content.toList, Plain line := by decide +kernel
  have hagrees := check_agrees (.text ".env") (fun v => rfl) hload hplain
  have hloads := hagrees.1 (by decide +kernel)
  have hsingle : ∀ v ∈ Variable.all, ((assignments {} (.file (.text content))).filter
      (·.key = v.name)).length ≤ 1 := by
    decide +kernel
  exact ⟨fun v => rfl, hload, hplain, hloads, hagrees.2 (fun v => hsingle v v.mem_all) hloads⟩

/-- For a quoted value there is a warning although it can be read, and for a value that cannot be
read there is none if the line starts with `export`. -/
theorem check_disagrees :
    let quoted := FileState.file (.text "LOOPBACK_BUDGET_MS=\"500\"\n")
    let exported := FileState.file (.text "export LOOPBACK_BUDGET_MS=abc\n")
    ((load {} quoted).2 = none ∧ (load {} quoted).1.Loads ∧
        check (.text ".env") quoted ≠ .ok (some [])) ∧
      (load {} exported).2 = none ∧ ¬(load {} exported).1.Loads ∧
        check (.text ".env") exported = .ok (some []) := by
  decide +kernel

end Files

end LoopGauge.EnvFile
