import Mathlib.Data.List.Nodup
import LoopGauge.Document.Settings
import LoopGauge.Proofs.Json.Decoding

/-!
# Reading settings

Settings survive being written as a document, and any part of a document of settings may be left
out: the keys that are there have their values, in whatever order and layout they stand and
whatever stands between them under other keys, and every other field has its default.

## Main definitions

* `within c keys`: the settings `c` under the given keys, and defaults elsewhere.
* `Holds c members`: every member of an object has the value of `c` or is none of settings.

## Main statements

* `settings_read_back`: settings are read back, whole or in part.
-/

namespace LoopGauge.Document

open Json Grammar

/-- Settings under some keys; every other field has its default. -/
def within (c : Settings) (keys : List String) : Settings where
  budgetMs := if "budget_ms" ∈ keys then c.budgetMs else ({} : Settings).budgetMs
  messageSize :=
    if "latency_message_size" ∈ keys then c.messageSize else ({} : Settings).messageSize
  bufferSize := if "throughput_buffer_size" ∈ keys then c.bufferSize else ({} : Settings).bufferSize
  maxSamples := if "max_latency_samples" ∈ keys then c.maxSamples else ({} : Settings).maxSamples
  tests := if "tests" ∈ keys then c.tests else ({} : Settings).tests
  enableColour := if "enable_color" ∈ keys then c.enableColour else ({} : Settings).enableColour
  json := if "json" ∈ keys then c.json else ({} : Settings).json
  verbose := if "verbose" ∈ keys then c.verbose else ({} : Settings).verbose
  debug := if "debug" ∈ keys then c.debug else ({} : Settings).debug

/-- The keys of settings. -/
def settingsKeys : List String :=
  ["budget_ms", "latency_message_size", "throughput_buffer_size", "max_latency_samples", "tests",
    "enable_color", "json", "verbose", "debug"]

/-- Members of an object that hold the given settings under some of their keys, each at most once;
under other keys there may be anything. -/
structure Holds (c : Settings) (members : List (String × List Char)) : Prop where
  distinct : ((members.map Prod.fst).filter (· ∈ settingsKeys)).Nodup
  denotes : ∀ m ∈ members, ∀ f ∈ settingsFields, m.1 = f.name → Denotes (f.get c) m.2
  isValue : ∀ m ∈ members, m.1 ∉ settingsKeys → IsValue m.2

variable {c : Settings}

theorem names_settingsFields : settingsFields.map Member.name = settingsKeys := rfl

theorem subTest_takes (t : SubTest) : Takes subTest.read 0 (subTest.write t) t :=
  takes_choice (by cases t <;> rfl)

theorem tests_take (tests : List SubTest) :
    Takes (Codec.list subTest).read 1 ((Codec.list subTest).write tests) tests := by
  refine takes_list ?_
  rw [List.forall₂_map_left_iff]
  exact List.forall₂_same.2 fun t _ => subTest_takes t

/-- Every field of settings is read back to its place, and adds its key to those whose values are
there. -/
theorem exists_change {f : Member Settings} (hf : f ∈ settingsFields) :
    ∃ change : Settings → Settings, Takes f.set 1 (f.get c) change ∧
      ∀ keys, change (within c keys) = within c (f.name :: keys) := by
  have hword (n : UInt64) : Takes Decoder.word 1 (.ofWord n) n := (takes_word n).mono (by decide)
  have hflag (b : Bool) : Takes Decoder.flag 1 (.flag b) b := (takes_flag b).mono (by decide)
  simp only [settingsFields, List.mem_cons, List.not_mem_nil, or_false] at hf
  obtain rfl | rfl | rfl | rfl | rfl | rfl | rfl | rfl | rfl := hf
  · exact ⟨_, (hword c.budgetMs).map _, fun keys => by simp [within, Member.of]⟩
  · exact ⟨_, (hword c.messageSize).map _, fun keys => by simp [within, Member.of]⟩
  · exact ⟨_, (hword c.bufferSize).map _, fun keys => by simp [within, Member.of]⟩
  · exact ⟨_, (hword c.maxSamples).map _, fun keys => by simp [within, Member.of]⟩
  · exact ⟨_, (tests_take c.tests).map _, fun keys => by simp [within, Member.of]⟩
  · exact ⟨_, (hflag c.enableColour).map _, fun keys => by simp [within, Member.of]⟩
  · exact ⟨_, (hflag c.json).map _, fun keys => by simp [within, Member.of]⟩
  · exact ⟨_, (hflag c.verbose).map _, fun keys => by simp [within, Member.of]⟩
  · exact ⟨_, (hflag c.debug).map _, fun keys => by simp [within, Member.of]⟩

/-- The defaults of a document are those of settings. -/
theorem within_nil (c : Settings) : within c [] = bareSettings := rfl

theorem within_cons_of_notMem {k : String} (hk : k ∉ settingsKeys) (keys : List String) :
    within c (k :: keys) = within c keys := by
  simp only [settingsKeys, List.mem_cons, not_or, List.not_mem_nil] at hk
  simp [within, hk, eq_comm]

theorem within_congr {keys keys' : List String} (h : ∀ k, k ∈ keys ↔ k ∈ keys') :
    within c keys = within c keys' := by
  simp only [within, h]

theorem fits_settings (c : Settings) : ∀ f ∈ settingsFields, (f.get c).Fits := by
  simp only [settingsFields, List.forall_mem_cons]
  exact ⟨fits_ofWord _, fits_ofWord _, fits_ofWord _, fits_ofWord _,
    fits_array_map fun _ _ => .text _, .flag _, .flag _, .flag _, .flag _, nofun⟩

section Reading

variable {members : List (String × List Char)} {cs : List Char}

/-- What is known of the tree of a member: it says the value of the field, or nothing is wrong with
it. -/
def Suits (c : Settings) (t : Tree) (m : String × List Char) : Prop :=
  (∃ f ∈ settingsFields, m.1 = f.name ∧ Says t (f.get c)) ∨
    m.1 ∉ settingsKeys ∧ skim t = .ok ()

theorem Holds.exists_spells (h : Holds c members) {m : String × List Char} (hm : m ∈ members) :
    ∃ t, Spells m.2 t ∧ Suits c t m := by
  by_cases hkey : m.1 ∈ settingsKeys
  · rw [← names_settingsFields, List.mem_map] at hkey
    obtain ⟨f, hf, hname⟩ := hkey
    obtain ⟨t, ht, hsays⟩ :=
      Json.exists_spells (h.denotes m hm f hf hname.symm) (fits_settings c f hf)
    exact ⟨t, ht, .inl ⟨f, hf, hname.symm, hsays⟩⟩
  · obtain ⟨t, ht, hskim⟩ := exists_spells_of_isValue (h.isValue m hm hkey)
    exact ⟨t, ht, .inr ⟨hkey, hskim⟩⟩

/-- An entry puts the value under its key in place; under another key it changes nothing. -/
theorem Suits.exists_effect {room : Nat} (hroom : 1 ≤ room) {e : Literal × Tree}
    {m : String × List Char} (hkey : e.1.value = .ok m.1) (h : Suits c e.2 m) :
    ∃ change, Effect settingsFields room e (m.1, change) ∧
      ∀ keys, change (within c keys) = within c (m.1 :: keys) := by
  obtain ⟨f, hf, hname, hsays⟩ | ⟨hstranger, hskim⟩ := h
  · obtain ⟨change, htakes, hchange⟩ := exists_change (c := c) hf
    rw [hname] at hkey ⊢
    exact ⟨change, .field hf hkey (htakes room e.2 hroom hsays), hchange⟩
  · exact ⟨id, .stranger hkey hstranger hskim, fun keys =>
      (within_cons_of_notMem hstranger keys).symm⟩

/-- Members of settings are read as the settings under their keys. -/
theorem Holds.decode_eq (h : Holds c members) (hcs : IsObjectOf members cs) :
    settings.decode (String.ofList cs) = .ok (within c (members.map Prod.fst)) := by
  have hparts : List.Forall₂ (fun m x => m.1 = x.1 ∧ ∃ t, Spells m.2 t ∧ Suits c t x)
      members members := List.forall₂_same.2 fun m hm => ⟨rfl, h.exists_spells hm⟩
  obtain ⟨es, hspells, hes⟩ := exists_spells_of_isObjectOf hcs hparts
  -- The object itself takes one of the levels that may be opened.
  have heffects : List.Forall₂ (fun e k => ∃ change, Effect settingsFields 126 e (k, change) ∧
      ∀ keys, change (within c keys) = within c (k :: keys)) es (members.map Prod.fst) := by
    rw [List.forall₂_map_right_iff]
    exact hes.imp fun e m hm => hm.2.exists_effect (by decide) hm.1
  have hrecord := record_eq_of_keys (by decide) heffects h.distinct
    (by simp [settingsFields, Member.of])
  rw [within_nil, within_congr fun k => List.mem_reverse] at hrecord
  exact decode_of_read hspells.read_alone hrecord

end Reading

/-- What is written of settings holds them under all their keys. -/
theorem holds_write (c : Settings) :
    Holds c ((entriesOf settingsFields c).map fun e => (e.1, compact e.2)) := by
  have hnames : (settingsFields.map Member.name).Nodup := by decide
  have hentry {m : String × List Char}
      (hm : m ∈ (entriesOf settingsFields c).map fun e => (e.1, compact e.2)) :
      ∃ f ∈ settingsFields, m = (f.name, compact (f.get c)) := by
    simpa [entriesOf, eq_comm] using hm
  refine ⟨hnames.filter _, fun m hm f hf hname => ?_, fun m hm hkey => ?_⟩
  · obtain ⟨g, hg, rfl⟩ := hentry hm
    rw [List.inj_on_of_nodup_map hnames hg hf hname]
    exact denotes_compact _
  · obtain ⟨g, hg, rfl⟩ := hentry hm
    exact absurd (List.mem_map_of_mem (f := Member.name) hg) hkey

theorem within_keys_written (c : Settings) :
    within c (((entriesOf settingsFields c).map fun e => (e.1, compact e.2)).map Prod.fst) = c :=
  rfl

/-- Settings are read back from what is written of them, and any part of them from an object that
holds it. -/
theorem settings_read_back (c : Settings) :
    settings.decode (settings.encode c) = .ok c ∧
      ∀ members cs, Holds c members → IsObjectOf members cs →
        settings.decode (String.ofList cs) = .ok (within c (members.map Prod.fst)) := by
  have hwhole := (holds_write c).decode_eq (isObjectOf_compact (entriesOf settingsFields c))
  rw [within_keys_written] at hwhole
  exact ⟨hwhole, fun _ _ h hcs => h.decode_eq hcs⟩

theorem settings_read_back_partly :
    settings.decode "\x7b\"note\": [], \"json\":true , \"budget_ms\": 7\x7d" =
      .ok { budgetMs := 7, json := true } := by
  let c : Settings := { budgetMs := 7, json := true, debug := true }
  have hblank : IsGap [' '] := by simp [IsGap]
  have hholds : Holds c [("note", ['[', ']']), ("json", "true".toList), ("budget_ms", ['7'])] := by
    refine ⟨by decide, ?_, ?_⟩
    · have htrue : Denotes (Codec.flag.write true) "true".toList := .true
      have hseven : Denotes (Codec.word.write 7) ['7'] := .whole 7
      simpa [settingsFields, Member.of, c] using And.intro htrue hseven
    · simp only [List.forall_mem_cons]
      exact ⟨fun _ => .emptyArray isGap_nil, fun h => absurd (by decide) h,
        fun h => absurd (by decide) h, List.forall_mem_nil _⟩
  exact (settings_read_back c).2 _ _ hholds (.entries
    (.more isGap_nil (isTextOf_quote "note") isGap_nil hblank isGap_nil
      (.more hblank (isTextOf_quote "json") isGap_nil isGap_nil hblank
        (.last hblank (isTextOf_quote "budget_ms") isGap_nil hblank isGap_nil))))

end LoopGauge.Document
