import LoopGauge.Engine.Probe
import LoopGauge.Engine.Round
import LoopGauge.Proofs.Plan
import LoopGauge.Proofs.Settings.Refusal
import LoopGauge.Proofs.Text.Words

/-!
# Adjustments that are announced

Advice is given before a run and without the engine, and the engine adjusts sizes and caps without
looking at the advice. Whatever the settings, the texts of the advice say what the probes of the
run work with, and they say it exactly where that is not what was asked for.

## Main definitions

* `Settings.announcements`: the advice as it is shown, level and text.
* `Settings.Announced`: what is announced is what the probes of the plan work with.

## Main statements

* `Advice.message_inj`: a text tells its advice, up to the rounding of a span.
* `Settings.announced_of_budget`: all settings with an acceptable budget are announced so.
-/

namespace LoopGauge

open Engine Number Text

namespace SubTest

theorem semicolon_ne_of_mem_name (t : SubTest) : ∀ c ∈ t.name.toList, c ≠ ';' := by
  cases t <;> simp [name]

theorem name_injective {t u : SubTest} (h : t.name = u.name) : t = u := by
  cases t <;> cases u <;> first | rfl | simp [name] at h

end SubTest

namespace Advice

variable {a b : Advice}

section Messages

variable (requested used size ms : UInt64) (t : SubTest) (slice : Span)

@[simp]
theorem message_nothingEnabled : nothingEnabled.message =
    "No sub-tests enabled; every result will be reported as unsuccessful" := rfl

@[simp]
theorem message_messageSize : (messageSize requested t used).message =
    adjusted "Message size" requested t used := rfl

@[simp]
theorem message_untagged : (untagged size).message = "Message size " ++ decimal size.toNat ++
    " is too small to tag UDP rounds; late echoes may be counted" := rfl

@[simp]
theorem message_bufferSize : (bufferSize requested t used).message =
    adjusted "Buffer size" requested t used := rfl

@[simp]
theorem message_sampleCap : (sampleCap requested used).message =
    "Sample cap " ++ decimal requested.toNat ++ " is out of range; using " ++
      decimal used.toNat := rfl

@[simp]
theorem message_shortSlice : (shortSlice slice).message =
    "Each sub-test gets only " ++ slice.asMillis.fixed 1 ++
      "ms; results may be empty or noisy (recommended: >= " ++
      decimal usefulSlice.millisWord.toNat ++ "ms)" := rfl

@[simp]
theorem message_longRun : (longRun ms).message =
    "Budget of " ++ decimal ms.toNat ++ "ms makes for a long run" := rfl

end Messages

/-- The first letters of a message. -/
def opening : Advice → List Char
  | nothingEnabled => ['N', 'o', ' ']
  | messageSize .. | untagged _ => ['M', 'e', 's']
  | bufferSize .. => ['B', 'u', 'f']
  | sampleCap .. => ['S', 'a', 'm']
  | shortSlice _ => ['E', 'a', 'c']
  | longRun _ => ['B', 'u', 'd']

theorem take_shortSlice (figure least : String) :
    ("Each sub-test gets only " ++ figure ++
      "ms; results may be empty or noisy (recommended: >= " ++ least ++ "ms)").toList.take 3 =
      ['E', 'a', 'c'] := by
  simp

theorem take_message (a : Advice) : a.message.toList.take 3 = a.opening := by
  cases a
  -- The figures are arbitrary texts here, or they would be computed.
  case shortSlice => exact take_shortSlice _ _
  all_goals simp [adjusted, opening]

/-- The message about a size tells what was asked for, for which sub-test, and what is used. -/
theorem adjusted_inj {what : String} {r r' u u' : UInt64} {t t' : SubTest}
    (h : adjusted what r t u = adjusted what r' t' u') : r = r' ∧ t = t' ∧ u = u' := by
  have h := congrArg String.toList h
  simp only [adjusted, String.toList_append, List.append_assoc, List.append_cancel_left_eq] at h
  obtain ⟨hr, -, h⟩ := decimal_append_inj (c := ' ') (d := ' ') (by decide) (by decide)
    (by simpa using h)
  obtain ⟨ht, -, h⟩ := append_cons_inj (p := (· ≠ ';')) (c := ';') (d := ';')
    t.semicolon_ne_of_mem_name t'.semicolon_ne_of_mem_name (by simp) (by simp)
    (by simpa using h)
  have hu := decimal_injective (String.toList_inj.1 (by simpa using h))
  exact ⟨UInt64.toNat_inj.1 hr, SubTest.name_injective (String.toList_inj.1 ht),
    UInt64.toNat_inj.1 hu⟩

/-- No message about a size that is replaced is one about a size without a tag. -/
theorem adjusted_ne_untagged (r u size : UInt64) (t : SubTest) :
    adjusted "Message size" r t u ≠ (untagged size).message := by
  intro h
  have h := congrArg String.toList h
  simp only [adjusted, message_untagged, String.toList_append, List.append_assoc] at h
  obtain ⟨-, -, h⟩ := decimal_append_inj (c := ' ') (d := ' ') (by decide) (by decide)
    (by simpa using h)
  simp at h

theorem untagged_inj {size size' : UInt64}
    (h : (untagged size).message = (untagged size').message) : size = size' := by
  have hsize := decimal_injective
    (String.toList_inj.1 (by simpa using congrArg String.toList h))
  exact UInt64.toNat_inj.1 hsize

theorem sampleCap_inj {r r' u u' : UInt64}
    (h : (sampleCap r u).message = (sampleCap r' u').message) : r = r' ∧ u = u' := by
  have h := congrArg String.toList h
  simp only [message_sampleCap, String.toList_append, List.append_assoc,
    List.append_cancel_left_eq] at h
  obtain ⟨hr, -, h⟩ := decimal_append_inj (c := ' ') (d := ' ') (by decide) (by decide)
    (by simpa using h)
  have hu := decimal_injective (String.toList_inj.1 (by simpa using h))
  exact ⟨UInt64.toNat_inj.1 hr, UInt64.toNat_inj.1 hu⟩

theorem longRun_inj {ms ms' : UInt64} (h : (longRun ms).message = (longRun ms').message) :
    ms = ms' := by
  have hms := decimal_injective
    (String.toList_inj.1 (by simpa using congrArg String.toList h))
  exact UInt64.toNat_inj.1 hms

/-- A text tells its advice, up to the rounding of a span. -/
theorem message_inj (h : a.message = b.message) :
    a = b ∨ ∃ x y, a = .shortSlice x ∧ b = .shortSlice y := by
  have hopening : a.opening = b.opening := by
    rw [← take_message, h, take_message]
  -- The first letters tell the kind, but for the two kinds about the size of a message.
  cases a <;> cases b <;> simp [opening] at hopening
  case messageSize.untagged => exact absurd h (adjusted_ne_untagged _ _ _ _)
  case untagged.messageSize => exact absurd h.symm (adjusted_ne_untagged _ _ _ _)
  case nothingEnabled.nothingEnabled => exact .inl rfl
  case shortSlice.shortSlice x y => exact .inr ⟨x, y, rfl, rfl⟩
  case messageSize.messageSize | bufferSize.bufferSize =>
    obtain ⟨rfl, rfl, rfl⟩ := adjusted_inj h
    exact .inl rfl
  case untagged.untagged => exact .inl (congrArg untagged (untagged_inj h))
  case sampleCap.sampleCap =>
    obtain ⟨rfl, rfl⟩ := sampleCap_inj h
    exact .inl rfl
  case longRun.longRun => exact .inl (congrArg longRun (longRun_inj h))

end Advice

namespace Engine.Probe

variable {plan : Plan} {t : SubTest}

/-- The probe of a latency, with what is made of the size of its messages and of its cap. -/
theorem ofPlan_eq_latency_iff {p : LatencyProbe} :
    ofPlan plan t = .latency p ↔ t.isLatency ∧ p = ⟨t.transport,
      Limits.messageSize t.transport plan.messageSize, Limits.sampleCap plan.maxSamples,
      .quiet recorder⟩ := by
  rw [ofPlan, requested]
  split
  next h => simp [h, LatencyProbe.standard, LatencyProbe.withMessageSize,
      LatencyProbe.withMaxSamples, eq_comm]
  next h => simp [h]

/-- The probe of a throughput, with what is made of the size of its writes. -/
theorem ofPlan_eq_throughput_iff {p : ThroughputProbe} :
    ofPlan plan t = .throughput p ↔ t.isLatency = false ∧
      p = ⟨t.transport, Limits.bufferSize t.transport plan.bufferSize, .quiet recorder⟩ := by
  rw [ofPlan, requested]
  split
  next h => simp [h]
  next h => simp [h, ThroughputProbe.standard, ThroughputProbe.withBufferSize, eq_comm]

end Engine.Probe

namespace Settings

variable {s : Settings} {t : SubTest} {a : Advice} {slice : Span}

@[simp]
theorem mem_sizeAdvice_iff : a ∈ s.sizeAdvice t ↔
    (t.isLatency ∧ Limits.messageSize t.transport s.messageSize ≠ s.messageSize ∧
      a = .messageSize s.messageSize t (Limits.messageSize t.transport s.messageSize)) ∨
    (t = .udpLatency ∧ Limits.messageSize .udp s.messageSize = s.messageSize ∧
      s.messageSize < Limits.roundTagLength ∧ a = .untagged s.messageSize) ∨
    (t.isLatency = false ∧ s.bufferSize ≠ 0 ∧
      Limits.bufferSize t.transport s.bufferSize ≠ s.bufferSize ∧
      a = .bufferSize s.bufferSize t (Limits.bufferSize t.transport s.bufferSize)) := by
  cases t <;> simp [sizeAdvice, SubTest.isLatency, SubTest.transport] <;> grind

@[simp]
theorem mem_capAdvice_iff : a ∈ s.capAdvice ↔
    (∃ t ∈ s.tests, t.isLatency) ∧ Limits.sampleCap s.maxSamples ≠ s.maxSamples ∧
      a = .sampleCap s.maxSamples (Limits.sampleCap s.maxSamples) := by
  simp [capAdvice, and_assoc]

@[simp]
theorem mem_sliceAdvice_iff : a ∈ s.sliceAdvice ↔
    ∃ slice, (Plan.ofSettings s).slice? = some slice ∧ slice < Advice.usefulSlice ∧
      a = .shortSlice slice := by
  rw [sliceAdvice]
  cases (Plan.ofSettings s).slice? <;> simp

@[simp]
theorem mem_advice_iff : a ∈ s.advice ↔
    (s.tests = [] ∧ a = .nothingEnabled) ∨ (∃ t ∈ s.tests, a ∈ s.sizeAdvice t) ∨
      a ∈ s.capAdvice ∨ a ∈ s.sliceAdvice ∨
      (Advice.longBudgetMillis < s.budgetMs ∧ a = .longRun s.budgetMs) := by
  simp [advice]

section Kinds

variable {requested used size : UInt64}

theorem messageSize_mem_advice_iff : .messageSize requested t used ∈ s.advice ↔
    t ∈ s.tests ∧ requested = s.messageSize ∧ used ≠ requested ∧
      t.isLatency ∧ Limits.messageSize t.transport s.messageSize = used := by
  simp
  grind

theorem bufferSize_mem_advice_iff : .bufferSize requested t used ∈ s.advice ↔
    t ∈ s.tests ∧ requested = s.bufferSize ∧ requested ≠ 0 ∧ used ≠ requested ∧
      t.isLatency = false ∧ Limits.bufferSize t.transport s.bufferSize = used := by
  simp
  grind

theorem sampleCap_mem_advice_iff : .sampleCap requested used ∈ s.advice ↔
    requested = s.maxSamples ∧ used ≠ requested ∧
      ∃ t ∈ s.tests, t.isLatency ∧ Limits.sampleCap s.maxSamples = used := by
  simp
  grind

theorem untagged_mem_advice_iff : .untagged size ∈ s.advice ↔
    .udpLatency ∈ s.tests ∧ size = s.messageSize ∧
      Limits.messageSize .udp s.messageSize = s.messageSize ∧
        s.messageSize < Limits.roundTagLength := by
  simp
  grind

theorem shortSlice_mem_advice_iff : .shortSlice slice ∈ s.advice ↔
    (Plan.ofSettings s).slice? = some slice ∧ slice < Advice.usefulSlice := by
  simp

theorem nothingEnabled_mem_advice_iff : .nothingEnabled ∈ s.advice ↔ s.tests = [] := by
  simp

end Kinds

/-- The advice as it is shown, level and text. -/
def announcements (s : Settings) : List (AdviceLevel × String) :=
  s.advice.map fun a => (a.level, a.message)

theorem mem_announcements_iff (h : ∀ slice, a ≠ .shortSlice slice) :
    (a.level, a.message) ∈ s.announcements ↔ a ∈ s.advice := by
  rw [announcements, List.mem_map]
  constructor
  · rintro ⟨b, hb, heq⟩
    obtain rfl | ⟨-, slice, -, ha⟩ := Advice.message_inj (Prod.mk.inj heq).2
    · exact hb
    · exact absurd ha (h slice)
  · intro ha
    exact ⟨a, ha, rfl⟩

/-- Some short slice is announced if there is one; which one, the text need not tell. -/
theorem exists_shortSlice_mem_announcements_iff :
    (∃ slice, (AdviceLevel.warning, (Advice.shortSlice slice).message) ∈ s.announcements) ↔
      ∃ slice, .shortSlice slice ∈ s.advice := by
  constructor
  · rintro ⟨slice, h⟩
    obtain ⟨b, hb, heq⟩ := List.mem_map.1 h
    obtain rfl | ⟨slice', -, rfl, -⟩ := Advice.message_inj (Prod.mk.inj heq).2
    · exact ⟨slice, hb⟩
    · exact ⟨slice', hb⟩
  · rintro ⟨slice, h⟩
    exact ⟨slice, List.mem_map_of_mem h⟩

/-- Each sub-test is enabled once, however often it is listed. -/
theorem length_enabled (s : Settings) :
    (Plan.ofSettings s).enabled.length = s.tests.dedup.length :=
  Plan.length_enabled_eq (Plan.isEnabled_ofSettings s)

/-- Slices are too short exactly if the budget does not give the useful time to each sub-test. -/
theorem exists_shortSlice_mem_advice_iff :
    (∃ slice, .shortSlice slice ∈ s.advice) ↔
      s.tests ≠ [] ∧ s.budgetMs.toNat < 20 * s.tests.dedup.length := by
  have htests : s.tests = [] ↔ s.tests.dedup.length = 0 := by
    rw [List.length_eq_zero_iff, List.dedup_eq_nil]
  simp only [shortSlice_mem_advice_iff, Plan.slice?, length_enabled, ne_eq, htests]
  cases hcount : s.tests.dedup.length with
  | zero => simp
  | succ count =>
    have hshort : (Plan.ofSettings s).budget.divide (count + 1) < Advice.usefulSlice ↔
        s.budgetMs.toNat * 1000000 < 20 * 1000000 * (count + 1) :=
      Nat.div_lt_iff_lt_mul count.succ_pos
    simp [hshort]
    omega

/-- A size of messages for datagrams has no room for a number if it was asked for and is small. -/
theorem messageSize_udp_lt_iff {size : UInt64} : Limits.messageSize .udp size < 4 ↔
    Limits.messageSize .udp size = size ∧ size < Limits.roundTagLength := by
  simp only [Limits.messageSize, Limits.within, Limits.roundTagLength, Limits.defaultMessageSize]
  split
  · simp
    grind
  · simp

/-- Messages below four bytes are those that carry no number of their round. -/
theorem tag_ofRound_eq_none_iff {size : UInt64} (round : Nat) :
    (Message.ofRound size.toNat round).tag = none ↔ size < 4 := by
  have hlt : size < 4 ↔ ¬tagLength ≤ size.toNat := by
    rw [Nat.not_le, UInt64.lt_iff_toNat_lt]
    rfl
  rw [Message.ofRound, ite_eq_right_iff, hlt]
  simp

/-- What is announced about settings is what the probes of their plan work with. -/
structure Announced (s : Settings) : Prop where
  /-- Nothing is objected to. -/
  acceptable : s.review = .ok s.advice
  /-- A size of messages is replaced in the probe of the sub-test that the message names. -/
  messageSize (t : SubTest) (requested used : UInt64) :
    (.info, (Advice.messageSize requested t used).message) ∈ s.announcements ↔
      t ∈ s.tests ∧ requested = s.messageSize ∧ used ≠ requested ∧
        ∃ p, Probe.ofPlan (.ofSettings s) t = .latency p ∧ p.messageSize = used
  /-- So is a size of writes, unless it was left to the transport. -/
  bufferSize (t : SubTest) (requested used : UInt64) :
    (.info, (Advice.bufferSize requested t used).message) ∈ s.announcements ↔
      t ∈ s.tests ∧ requested = s.bufferSize ∧ requested ≠ 0 ∧ used ≠ requested ∧
        ∃ p, Probe.ofPlan (.ofSettings s) t = .throughput p ∧ p.bufferSize = used
  sampleCap (requested used : UInt64) :
    (.info, (Advice.sampleCap requested used).message) ∈ s.announcements ↔
      requested = s.maxSamples ∧ used ≠ requested ∧ ∃ t ∈ s.tests,
        ∃ p, Probe.ofPlan (.ofSettings s) t = .latency p ∧ p.maxSamples = used
  /-- A message is too small if no round of the probe carries its number. -/
  untagged (size : UInt64) :
    (.info, (Advice.untagged size).message) ∈ s.announcements ↔
      .udpLatency ∈ s.tests ∧ size = s.messageSize ∧
        ∃ p, Probe.ofPlan (.ofSettings s) .udpLatency = .latency p ∧ p.messageSize < 4 ∧
          ∀ round, (Message.ofRound p.messageSize.toNat round).tag = none
  shortSlice :
    (∃ slice, (.warning, (Advice.shortSlice slice).message) ∈ s.announcements) ↔
      s.tests ≠ [] ∧ s.budgetMs.toNat < 20 * s.tests.dedup.length
  nothingEnabled :
    (.warning, Advice.nothingEnabled.message) ∈ s.announcements ↔ s.tests = []

/-- **Adjustments are announced**: whatever the sizes, the cap and the sub-tests, an announcement
says what the probes of the plan work with, and there is one wherever that is not what was asked
for. -/
theorem announced_of_budget (s : Settings) (hpos : 1 ≤ s.budgetMs) (hle : s.budgetMs ≤ 600000) :
    s.Announced where
  acceptable := review_eq_ok ((problem?_eq_none_iff s).2 ⟨hpos, hle⟩)
  messageSize t requested used := by
    refine (mem_announcements_iff (a := .messageSize requested t used) (by simp)).trans ?_
    rw [messageSize_mem_advice_iff]
    simp [Probe.ofPlan_eq_latency_iff, Plan.ofSettings]
  bufferSize t requested used := by
    refine (mem_announcements_iff (a := .bufferSize requested t used) (by simp)).trans ?_
    rw [bufferSize_mem_advice_iff]
    simp [Probe.ofPlan_eq_throughput_iff, Plan.ofSettings]
  sampleCap requested used := by
    refine (mem_announcements_iff (a := .sampleCap requested used) (by simp)).trans ?_
    rw [sampleCap_mem_advice_iff]
    simp [Probe.ofPlan_eq_latency_iff, Plan.ofSettings]
  untagged size := by
    refine (mem_announcements_iff (a := .untagged size) (by simp)).trans ?_
    rw [untagged_mem_advice_iff]
    simp [Probe.ofPlan_eq_latency_iff, Plan.ofSettings, messageSize_udp_lt_iff,
      tag_ofRound_eq_none_iff, SubTest.isLatency, SubTest.transport]
  shortSlice := exists_shortSlice_mem_announcements_iff.trans exists_shortSlice_mem_advice_iff
  nothingEnabled :=
    (mem_announcements_iff (a := .nothingEnabled) (by simp)).trans nothingEnabled_mem_advice_iff

/-- A short run that is asked for small messages and large writes. -/
theorem announced_of_budget_short_run :
    let s : Settings :=
      { budgetMs := 30, messageSize := 3, bufferSize := 2097152,
        tests := [.udpLatency, .tcpThroughput, .udpLatency] }
    1 ≤ s.budgetMs ∧ s.budgetMs ≤ 600000 ∧ s.Announced ∧
      (.info, (Advice.untagged 3).message) ∈ s.announcements ∧
      (.info, (Advice.bufferSize 2097152 .tcpThroughput 131072).message) ∈ s.announcements ∧
      (∃ slice, (.warning, (Advice.shortSlice slice).message) ∈ s.announcements) := by
  intro s
  have h := announced_of_budget s (by decide) (by decide)
  refine ⟨by decide, by decide, h, ?_, ?_, ?_⟩
  · rw [h.untagged]
    exact ⟨by decide, rfl, _, rfl, by decide, fun _ => rfl⟩
  · rw [h.bufferSize]
    exact ⟨by decide, rfl, by decide, by decide, _, rfl, rfl⟩
  · rw [h.shortSlice]
    decide

end Settings

end LoopGauge
