import LoopGauge.Proofs.Report.Tame
import LoopGauge.Proofs.Result.Slots
import LoopGauge.Proofs.Settings.Priority
import LoopGauge.Proofs.Spelling
import LoopGauge.Proofs.Text.Lines

/-!
# Lists of sub-tests

The first item of a list that asks for all sub-tests, or that names none, decides what the list
says; without one, the list says what its items name. A list that is written out of names is read
back, with commas and any blanks between them.

## Main definitions

* `SubTest.decides`: whether an item settles what a list says.
* `SubTest.Mention`: the name of a sub-test with blanks around it.

## Main statements

* `SubTest.readList_eq`: what the first decisive item says.
* `SubTest.readList_join_mentions`: mentions are read back.
* `SubTest.readList_decided`: lists of sub-tests, read and written.
-/

namespace LoopGauge

namespace SubTest

open Text

section Duplicates

variable {α : Type} [BEq α] [LawfulBEq α]

theorem nodup_eraseDups : ∀ xs : List α, xs.eraseDups.Nodup
  | [] => by
    rw [List.eraseDups_nil]
    exact .nil
  | x :: xs => by
    rw [List.eraseDups_cons, List.nodup_cons, List.mem_eraseDups]
    exact ⟨by simp, nodup_eraseDups _⟩
termination_by xs => xs.length
decreasing_by exact Nat.lt_succ_of_le (List.length_filter_le _ xs)

theorem eraseDups_eq_self {xs : List α} (h : xs.Nodup) : xs.eraseDups = xs := by
  induction xs with
  | nil => exact List.eraseDups_nil
  | cons x xs ih =>
    obtain ⟨hx, hxs⟩ := List.nodup_cons.1 h
    have hothers : xs.filter (!· == x) = xs := by
      refine List.filter_eq_self.2 fun y hy => ?_
      have hne : y ≠ x := fun heq => hx (heq ▸ hy)
      simpa using hne
    rw [List.eraseDups_cons, hothers, ih hxs]

end Duplicates

variable {s : String} {item : List Char} {tests : List SubTest} {t : SubTest}

/-- An item decides what a list says if it asks for all sub-tests or names none. -/
def decides (item : List Char) : Bool :=
  asksForAll item || (read? (String.ofList item)).isNone

theorem not_decides_of_read? (hall : ¬asksForAll item)
    (hread : read? (String.ofList item) = some t) : ¬decides item := by
  simp [decides, hall, hread]

/-- Reading goes up to the first item that decides. -/
theorem readItems_eq (found : List SubTest) (items : List (List Char)) :
    readItems found items =
      match items.find? decides with
      | some item => if asksForAll item then .ok all else .error (String.ofList item)
      | none => .ok ((items.filterMap fun item => read? (String.ofList item)).foldl
          (fun seen t => if seen.contains t then seen else seen ++ [t]) found) := by
  -- An item that does not decide only adds to what was found.
  induction items generalizing found with
  | nil => rfl
  | cons item items ih =>
    rw [readItems]
    by_cases hall : asksForAll item
    · rw [if_pos hall, List.find?_cons_of_pos (by simp [decides, hall])]
      exact (if_pos hall).symm
    · rw [if_neg hall]
      cases hread : read? (String.ofList item) with
      | none =>
        rw [List.find?_cons_of_pos (by simp [decides, hread])]
        exact (if_neg hall).symm
      | some t =>
        have hnames : (item :: items).filterMap (fun item => read? (String.ofList item)) =
            t :: items.filterMap fun item => read? (String.ofList item) :=
          List.filterMap_cons_some hread
        rw [List.find?_cons_of_neg (not_decides_of_read? hall hread), hnames, List.foldl_cons]
        exact ih _

/-- A list says what its first decisive item says, or else what its items name. -/
theorem readList_eq (s : String) :
    readList s =
      match (listItems s).find? decides with
      | some item => if asksForAll item then .ok all else .error (String.ofList item)
      | none => .ok ((listItems s).filterMap fun item => read? (String.ofList item)).eraseDups := by
  rw [readList, readItems_eq]
  cases (listItems s).find? decides with
  | some item => rfl
  | none => exact congrArg Except.ok (Settings.distinct_eq_eraseDups _)

theorem nodup_of_readList (h : readList s = .ok tests) : tests.Nodup := by
  rw [readList_eq] at h
  split at h
  · split at h
    · cases h
      exact nodup_all
    · cases h
  · cases h
    exact nodup_eraseDups _

/-- The name of a sub-test with blanks around it. -/
structure Mention where
  before : String
  test : SubTest
  after : String
  blank_before : ∀ c ∈ before.toList, isBlank c
  blank_after : ∀ c ∈ after.toList, isBlank c

def Mention.text (m : Mention) : String := m.before ++ m.test.name ++ m.after

theorem trim_name (t : SubTest) : trim t.name.toList = t.name.toList := by cases t <;> decide

/-- A name spells itself. -/
theorem read?_name (t : SubTest) : read? t.name = some t := by
  rw [read?_eq_some_iff, trim_name]
  exact List.forall₂_same.2 fun _ _ => .inl rfl

theorem not_decides_name (t : SubTest) : ¬decides t.name.toList := by
  have hread : read? (String.ofList t.name.toList) = some t := by
    rw [String.ofList_toList, read?_name]
  exact not_decides_of_read? (by cases t <;> decide) hread

theorem Mention.trim_text (m : Mention) : trim m.text.toList = m.test.name.toList := by
  rw [text, String.toList_append, String.toList_append, trim_append_of_isBlank m.blank_after,
    trim_gap_append m.blank_before, trim_name]

theorem Mention.comma_not_mem (m : Mention) : ',' ∉ m.text.toList := by
  have hgap {gap : List Char} (hblank : ∀ c ∈ gap, isBlank c) : ',' ∉ gap :=
    fun hmem => absurd (hblank ',' hmem) (by decide)
  have hname : ',' ∉ m.test.name.toList := by cases m.test <;> decide
  simp only [text, String.toList_append, List.mem_append, not_or]
  exact ⟨⟨hgap m.blank_before, hname⟩, hgap m.blank_after⟩

theorem listItems_join_mentions (ms : List Mention) :
    listItems (join "," (ms.map Mention.text)) = ms.map fun m => m.test.name.toList := by
  have hkept : ∀ item ∈ ms.map fun m => m.test.name.toList, !item.isEmpty := by
    simp only [List.forall_mem_map]
    intro m _
    cases m.test <;> decide
  cases ms with
  | nil => decide
  | cons m ms =>
    have hcomma : "," = String.singleton ',' := rfl
    have hpieces : pieces ',' (join "," ((m :: ms).map Mention.text)).toList =
        ((m :: ms).map Mention.text).map String.toList := by
      rw [hcomma, pieces_join ?_ (by simp)]
      simp only [List.forall_mem_map]
      exact fun m _ => m.comma_not_mem
    have htrim : (trim ∘ String.toList) ∘ Mention.text = fun m => m.test.name.toList :=
      funext Mention.trim_text
    rw [listItems, hpieces, List.map_map, List.map_map, htrim, List.filter_eq_self.2 hkept]

theorem readList_join_mentions (ms : List Mention) :
    readList (join "," (ms.map Mention.text)) = .ok (ms.map (·.test)).eraseDups := by
  have hnone : (ms.map fun m => m.test.name.toList).find? decides = none := by
    rw [List.find?_eq_none]
    simp only [List.forall_mem_map]
    exact fun m _ => not_decides_name m.test
  have hread : (ms.map fun m => m.test.name.toList).filterMap
      (fun item => read? (String.ofList item)) = ms.map (·.test) := by
    rw [List.filterMap_map, ← List.filterMap_eq_map]
    refine List.filterMap_congr fun m _ => ?_
    simp only [Function.comp_apply, String.ofList_toList, read?_name]
  rw [readList_eq, listItems_join_mentions, hnone, hread]

/-- A space behind each comma is one in front of each text but the first. -/
theorem join_comma_space (first : String) (rest : List String) :
    join ", " (first :: rest) = join "," (first :: rest.map (" " ++ ·)) := by
  have hcomma : ", " = "," ++ " " := by decide
  induction rest generalizing first with
  | nil => rw [List.map_nil, join, join, String.intercalate_singleton, String.intercalate_singleton]
  | cons second rest ih =>
    have hrest := ih second
    cases rest with
    | nil =>
      simp only [join, List.map_cons, List.map_nil, String.intercalate_cons_cons,
        String.intercalate_singleton, hcomma, String.append_assoc]
    | cons third rest =>
      simp only [join, List.map_cons, String.intercalate_cons_cons, hcomma,
        String.append_assoc] at hrest ⊢
      rw [hrest]

theorem readList_listing (hdistinct : tests.Nodup) (hne : tests ≠ []) :
    readList (listing tests) = .ok tests := by
  cases tests with
  | nil => exact absurd rfl hne
  | cons t tests =>
    have hspace : ∀ c ∈ " ".toList, isBlank c := by
      have htoList : " ".toList = [' '] := by decide
      rw [htoList, List.forall_mem_singleton]
      decide
    let first : Mention := ⟨"", t, "", nofun, nofun⟩
    let spaced (t : SubTest) : Mention := ⟨" ", t, "", hspace, nofun⟩
    have htexts : (first :: tests.map spaced).map Mention.text =
        t.name :: (tests.map name).map (" " ++ ·) := by
      simp [first, spaced, Mention.text]
    have htests : (first :: tests.map spaced).map (·.test) = t :: tests := by
      simp [first, spaced, Function.comp_def]
    have hread := readList_join_mentions (first :: tests.map spaced)
    rw [htexts, htests, eraseDups_eq_self hdistinct, ← join_comma_space] at hread
    exact hread

theorem listing_mem_summary (s : Settings) :
    ("Sub-tests: " ++ listing s.tests).toList ∈ pieces '\n' s.summary.toList := by
  have hline : Report.Tame ("Sub-tests: " ++ listing s.tests) :=
    Report.tame_append.2 ⟨by decide, Report.tame_listing s.tests⟩
  exact mem_pieces_join (by simp) hline.feed_not_mem

/-- **The first decisive item says what a list says**. It asks for all sub-tests, whatever follows
it, or it names none and is the error, even if a later item asks for all. Without such an item the
list says what its items name, in the order of the first mention. No list says anything twice,
mentions with commas between them are read back, and so is the list in a summary of settings. -/
theorem readList_decided :
    (∀ s : String,
      let items := ((s.toList.splitOn ',').map trim).filter (!·.isEmpty)
      readList s =
        match items.find? fun item => asksForAll item || (read? (String.ofList item)).isNone with
        | some item => if asksForAll item then .ok all else .error (String.ofList item)
        | none => .ok (items.filterMap fun item => read? (String.ofList item)).eraseDups) ∧
    (∀ item, (Misreading.test item).message = "Parsing error: Unknown sub-test: " ++ item) ∧
    (∀ s tests, readList s = .ok tests → tests.Nodup) ∧
    (∀ ms : List Mention,
      readList (join "," (ms.map Mention.text)) = .ok (ms.map (·.test)).eraseDups) ∧
    ∀ s : Settings, s.tests.Nodup → s.tests ≠ [] →
      ("Sub-tests: " ++ listing s.tests).toList ∈ pieces '\n' s.summary.toList ∧
        readList (listing s.tests) = .ok s.tests := by
  refine ⟨fun s => ?_, fun item => ?_, fun s tests => nodup_of_readList, readList_join_mentions,
    fun s hdistinct hne => ⟨listing_mem_summary s, readList_listing hdistinct hne⟩⟩
  · have hitems : listItems s = ((s.toList.splitOn ',').map trim).filter (!·.isEmpty) := by
      rw [listItems, pieces, piecesBy_eq_splitOnP, List.splitOn_eq_splitOnP]
    rw [readList_eq, hitems]
    rfl
  · have hheading : "Parsing error: " ++ "Unknown sub-test: " =
        "Parsing error: Unknown sub-test: " := by decide
    rw [← hheading, String.append_assoc]
    rfl

/-- A list is read up to `all`, up to a name of nothing, or to its end. -/
theorem readList_decided_mixed :
    readList "udp_latency, ALL ,bogus" = .ok all ∧
      readList "UDP-Latency,,bogus,all" = .error "bogus" ∧
      readList " udp-latency,,Tcp_Latency , udp-latency" = .ok [udpLatency, tcpLatency] ∧
      [udpLatency, tcpLatency].Nodup ∧
      readList "udp-latency, tcp-latency" = .ok [udpLatency, tcpLatency] := by
  obtain ⟨hlist, -, hnodup, -, hsummary⟩ := readList_decided
  have htwo : readList " udp-latency,,Tcp_Latency , udp-latency" = .ok [udpLatency, tcpLatency] :=
    (hlist _).trans (by decide +kernel)
  refine ⟨(hlist _).trans (by decide +kernel), (hlist _).trans (by decide +kernel), htwo, hnodup _ _ htwo, ?_⟩
  exact (hsummary { tests := [udpLatency, tcpLatency] } (by decide) (by decide)).2

end SubTest

end LoopGauge
