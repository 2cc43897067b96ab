import RentalGuard.Proofs.Bank.Sandbox
import RentalGuard.Proofs.Webhook.Window
import RentalGuard.Settings.Payment

/-! # What the variables make of the components

Whether a text is blank is asked when a variable is read and again when a component is made from it.
The answers agree for every text, so only a tolerance that is no number is refused, and what is made
of the settings is what would be made of the variables themselves.
-/

namespace RentalGuard

/-! ## Compact forms -/

variable {raw : String}

/-- Blanks at the ends leave nothing in the compact form, nor do blanks inside. -/
theorem compactForm_trimmed (raw : String) : compactForm (Text.trimmed raw) = compactForm raw := by
  obtain ⟨before, after, hraw, hbefore, hafter⟩ := Text.exists_padded_trim raw.toList
  have hsame : Text.compactUpper raw.toList = Text.compactUpper (Text.trim raw.toList) := by
    conv => lhs; rw [hraw]
    rw [Text.compactUpper_append, Text.compactUpper_append, Text.compactUpper_blanks hbefore,
      Text.compactUpper_blanks hafter, List.nil_append, List.append_nil]
  rw [compactForm, compactForm, Text.toList_trimmed, hsame]

theorem trimmed_eq_empty_iff : Text.trimmed raw = "" ↔ Text.isBlankText raw = true := by
  rw [← String.toList_inj, Text.toList_trimmed, Text.isBlankText, List.isEmpty_iff]
  exact Iff.rfl

theorem compactForm_of_isBlankText (h : Text.isBlankText raw = true) : compactForm raw = "" := by
  rw [← compactForm_trimmed, trimmed_eq_empty_iff.mpr h]
  rfl

namespace SandboxIbans

theorem ofList_congr {texts others : List String}
    (h : (texts.map compactForm).filter (· ≠ "") = (others.map compactForm).filter (· ≠ "")) :
    ofList texts = ofList others := by
  unfold ofList
  simp only [h]

/-- Blank texts in a list and blanks around a text make no difference. -/
theorem ofList_trimmed (texts : List String) :
    ofList ((texts.map Text.trimmed).filter (· ≠ "")) = ofList texts := by
  refine ofList_congr ?_
  induction texts with
  | nil => rfl
  | cons text rest ih =>
    rw [List.map_cons, List.map_cons]
    by_cases hblank : Text.trimmed text = ""
    · have hcompact : compactForm text = "" :=
        compactForm_of_isBlankText (trimmed_eq_empty_iff.mp hblank)
      simpa [hblank, hcompact] using ih
    · rw [List.filter_cons_of_pos (by simpa using hblank), List.map_cons, compactForm_trimmed,
        List.filter_cons, List.filter_cons, ih]

theorem ofList_of_blank {texts : List String} (h : ∀ text ∈ texts, Text.isBlankText text = true) :
    ofList texts = empty := by
  have hnone : (texts.map compactForm).filter (· ≠ "") =
      (([] : List String).map compactForm).filter (· ≠ "") := by
    refine List.filter_eq_nil_iff.mpr fun text htext => ?_
    obtain ⟨raw, hraw, rfl⟩ := List.mem_map.mp htext
    simp [compactForm_of_isBlankText (h raw hraw)]
  exact ofList_congr hnone

end SandboxIbans

namespace PaymentSettings

variable {lookup : String → Option String} {settings : PaymentSettings}

/-! ## The variables -/

/-- The texts that the variable for exempt numbers has between its commas, as they are. -/
def listed (lookup : String → Option String) : List String :=
  match lookup sandboxVariable with
  | some value => (value.toList.splitOn ',').map String.ofList
  | none => []

/-- The text, but for blanks around it, is a number of 32 bits. -/
def NamesSeconds (value : String) (seconds : Nat) : Prop :=
  seconds < 0x100000000 ∧ Text.IsCount (Text.trim value.toList) seconds

/-- The tolerance that the variables ask for, in seconds. -/
def AsksFor (lookup : String → Option String) (seconds : Nat) : Prop :=
  match lookup toleranceVariable with
  | some value => NamesSeconds value seconds
  | none => seconds = 300

/-- The variable for the tolerance has a value that is no number of 32 bits. -/
def HasBadTolerance (lookup : String → Option String) (value : String) : Prop :=
  lookup toleranceVariable = some value ∧ ¬∃ seconds, NamesSeconds value seconds

theorem tolerance?_eq_some_iff {value : String} {seconds : Nat} :
    tolerance? value = some seconds ↔ NamesSeconds value seconds :=
  Text.unsigned?_eq_some_iff

/-- The settings are what the variables say. -/
structure Reads (lookup : String → Option String) (settings : PaymentSettings) : Prop where
  ibans : settings.sandboxIbans = ((lookup sandboxVariable).map ibanList).getD []
  key : settings.gatewayKey = (lookup keyVariable).filter fun key => !Text.isBlankText key
  tolerance : AsksFor lookup settings.webhookTolerance

theorem read_cases (lookup : String → Option String) :
    (∃ value, HasBadTolerance lookup value ∧ read lookup = .error ⟨toleranceVariable, value⟩) ∨
    ∃ settings, Reads lookup settings ∧ read lookup = .ok settings := by
  have hreads : ∀ {seconds : Nat}, AsksFor lookup seconds →
      Reads lookup ⟨((lookup sandboxVariable).map ibanList).getD [],
        (lookup keyVariable).filter fun key => !Text.isBlankText key, seconds⟩ :=
    fun hasks => ⟨rfl, rfl, hasks⟩
  unfold AsksFor at hreads
  unfold read
  cases hvalue : lookup toleranceVariable with
  | none =>
    rw [hvalue] at hreads
    exact .inr ⟨_, hreads rfl, rfl⟩
  | some value =>
    rw [hvalue] at hreads
    cases hseconds : tolerance? value with
    | some seconds =>
      exact .inr ⟨_, hreads (tolerance?_eq_some_iff.mp hseconds), by simp [hseconds]⟩
    | none =>
      refine .inl ⟨value, ⟨hvalue, ?_⟩, by simp [hseconds]⟩
      rintro ⟨seconds, hnames⟩
      rw [tolerance?_eq_some_iff.mpr hnames] at hseconds
      cases hseconds

theorem HasBadTolerance.not_asksFor {value : String} (h : HasBadTolerance lookup value)
    (seconds : Nat) : ¬AsksFor lookup seconds := by
  rw [AsksFor, h.1]
  exact fun hnames => h.2 ⟨seconds, hnames⟩

/-- No tolerance that can be asked for is too long. -/
theorem longest_of_asksFor {seconds : Nat} (h : AsksFor lookup seconds) :
    seconds * WebhookVerifier.second ≤ WebhookVerifier.longestTolerance := by
  have hlt : seconds < 0x100000000 := by
    unfold AsksFor at h
    split at h
    · exact h.1
    · omega
  unfold WebhookVerifier.second WebhookVerifier.longestTolerance
  omega

/-! ## The components -/

theorem ibanList_eq (value : String) : ibanList value =
    (((value.toList.splitOn ',').map String.ofList).map Text.trimmed).filter (· ≠ "") := by
  rw [ibanList, Text.parts_eq_splitOn, List.map_map]
  simp [Text.trimmed, Function.comp_def]

/-- A list of exempt numbers that is empty exempts none in any case. -/
theorem sandbox_eq (settings : PaymentSettings) :
    settings.sandbox = .ofList settings.sandboxIbans := by
  unfold sandbox
  split
  · rename_i hempty
    rw [List.isEmpty_iff.mp hempty]
    rfl
  · rfl

theorem sandbox_of_reads (h : Reads lookup settings) :
    settings.sandbox = .ofList (listed lookup) := by
  rw [sandbox_eq, h.ibans, listed]
  cases lookup sandboxVariable with
  | none => rfl
  | some value =>
    rw [Option.map_some, Option.getD_some, ibanList_eq, SandboxIbans.ofList_trimmed]

/-- The key of the settings is not blank, so a verifier can be made from it. -/
theorem exists_verifier (h : Reads lookup settings) :
    ∃ made, settings.verifier = .ok made ∧
      (made.isSome = true ↔
        ∃ key, lookup keyVariable = some key ∧ Text.isBlankText key = false) ∧
      ∀ v ∈ made, ∃ key direct, lookup keyVariable = some key ∧
        WebhookVerifier.ofKey key = .ok direct ∧
        v = direct.withTolerance (settings.webhookTolerance * WebhookVerifier.second : Nat) := by
  unfold verifier
  rw [h.key]
  cases lookup keyVariable with
  | none => exact ⟨none, rfl, by simp, by simp⟩
  | some key =>
    cases hblank : Text.isBlankText key with
    | true =>
      rw [Option.filter_some_neg (by simp [hblank])]
      exact ⟨none, rfl, by simp [hblank], by simp⟩
    | false =>
      obtain ⟨direct, hdirect⟩ := WebhookVerifier.exists_ofKey hblank
      rw [Option.filter_some_pos (by simp [hblank])]
      simp only [hdirect]
      exact ⟨some _, rfl, by simp [hblank], fun v hv =>
        ⟨key, direct, rfl, hdirect, (Option.mem_some_iff.mp hv).symm⟩⟩

end PaymentSettings

end RentalGuard
