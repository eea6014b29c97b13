import Hypermedia.Proofs.Gateway.CommandLine
import Hypermedia.Proofs.Text.Decimal
import Hypermedia.Proofs.Toml.Document

/-!
# Settings on a command line and in a file

Each setting is read by two readers: one takes the text of an argument, the other a value of a TOML file.

* `Assignment` gives settings a text or a number; arguments and tables may hold it.
* `readValue_eq` says for which texts and numbers the two readers of a setting agree.
* `setAll_eq_ofTable?` puts all settings together: arguments and a table that hold the same assignment
  are read as the same draft.
-/

namespace Hypermedia.Configuration

open CommandLine (Setting Given Occurrence count?)
open Toml (Scalar Table)

/-! ## Assignments -/

/-- Texts and numbers for settings of the gateway, each of which may be missing. -/
structure Assignment where
  /-- The URL of the API behind the gateway. -/
  backendUrl : Option String := none
  /-- The address to listen on. -/
  listen : Option String := none
  /-- How many connections are served at the same time. -/
  maxConnections : Option Int := none
  /-- How many relations are pushed for a request. -/
  maxPushes : Option Int := none
  /-- What is written before links to the same origin. -/
  apiUrl : Option String := none
  /-- When relations in documents are replaced. -/
  policy : Option String := none
  deriving DecidableEq, Repr

/-- The key of a setting in a file: its name, with underscores for hyphens. -/
def key : Setting → String
  | .config => "config"
  | .backend => "upstream"
  | .listen => "listen"
  | .maxConnections => "max_connections"
  | .maxPushes => "max_pushes"
  | .apiUrl => "api_url"
  | .openapi => "openapi"
  | .policy => "rewrite_policy"

/-- What is written for a text or a number on a command line. -/
def argumentText : Scalar → String
  | .string text => text
  | .integer n => toString n

namespace Assignment

/-- What is assigned to a setting. -/
def scalar? (assignment : Assignment) : Setting → Option Scalar
  | .backend => assignment.backendUrl.map .string
  | .listen => assignment.listen.map .string
  | .maxConnections => assignment.maxConnections.map .integer
  | .maxPushes => assignment.maxPushes.map .integer
  | .apiUrl => assignment.apiUrl.map .string
  | .policy => assignment.policy.map .string
  | .config => none
  | .openapi => none

/-- The numbers that are assigned. -/
def numbers (assignment : Assignment) : List Int :=
  assignment.maxConnections.toList ++ assignment.maxPushes.toList

/-- Arguments that hold an assignment: what is assigned, and nothing else, in any order. -/
structure IsGivenBy (assignment : Assignment) (occurrences : List Occurrence) : Prop where
  /-- No setting is given twice. -/
  nodup : (occurrences.map Occurrence.setting).Nodup
  /-- No value looks like a setting. -/
  isClear : ∀ occurrence ∈ occurrences, occurrence.IsClear
  /-- What is given to a setting is the text of what is assigned to it. -/
  lookup_eq : ∀ setting, (occurrences.map Occurrence.item).lookup setting =
    (assignment.scalar? setting).map argumentText

/-- Whether a table holds an assignment: what is assigned, and nothing else under the key of a
setting. -/
def IsHeldBy (assignment : Assignment) (table : Table) : Prop :=
  ∀ setting, setting ≠ .config →
    table.get? (key setting) = (assignment.scalar? setting).map Scalar.value

end Assignment

/-! ## The readers of a setting -/

/-- The value of a setting that stands in a file. -/
def readValue : (setting : Setting) → Toml.Value → Option setting.Value
  | .config => textOf?
  | .backend => textOf?
  | .listen => addressOf?
  | .maxConnections => countOf?
  | .maxPushes => countOf?
  | .apiUrl => textOf?
  | .openapi => textOf?
  | .policy => policyOf?

/-- A number on a command line is read as itself if it is not negative and has 64 bits. -/
theorem count?_toString (n : Int) :
    count? (toString n) = if 0 ≤ n ∧ n < (2 : Int) ^ 64 then some n.toNat else none := by
  cases n with
  | ofNat m =>
      have htext : (toString (Int.ofNat m)).toList = Nat.toDigits 10 m := Nat.toList_repr
      have hall := Text.all_isDigit_toDigits m
      have hread := (Text.foldl_digits (Nat.toDigits 10 m)).trans Nat.ofDigitChars_ten_toDigits
      unfold count?
      rw [htext]
      split
      · next heq =>
        rw [← List.append_nil (Nat.toDigits 10 m)] at heq
        exact absurd heq (Text.toDigits_append_ne_cons m [] rfl _)
      · dsimp only
        rw [if_neg (by simp [hall, Nat.toDigits_ne_nil]), hread]
        congr 1
        apply propext
        norm_num
  | negSucc m =>
      have htext : (toString (Int.negSucc m)).toList = '-' :: Nat.toDigits 10 (m + 1) :=
        Toml.integerText_negSucc m
      unfold count?
      rw [htext]
      simp

/-- A draft is what the settings of a file are read as. -/
theorem ofTable?_eq_some_iff {table : Table} {draft : Draft} :
    Draft.ofTable? table = some draft ↔
      ∀ setting, setting ≠ .config →
        keyOf? table (key setting) (readValue setting) =
          some ((⟨none, draft⟩ : Given).get? setting) := by
  constructor
  · intro h setting hconfig
    unfold Draft.ofTable? at h
    obtain ⟨backendUrl, hbackendUrl, h⟩ := Option.bind_eq_some_iff.mp h
    obtain ⟨listen, hlisten, h⟩ := Option.bind_eq_some_iff.mp h
    obtain ⟨maxConnections, hmaxConnections, h⟩ := Option.bind_eq_some_iff.mp h
    obtain ⟨maxPushes, hmaxPushes, h⟩ := Option.bind_eq_some_iff.mp h
    obtain ⟨apiUrl, hapiUrl, h⟩ := Option.bind_eq_some_iff.mp h
    obtain ⟨description, hdescription, h⟩ := Option.bind_eq_some_iff.mp h
    obtain ⟨policy, hpolicy, h⟩ := Option.bind_eq_some_iff.mp h
    obtain rfl := Option.some.inj h
    cases setting with
    | config => exact absurd rfl hconfig
    | backend => exact hbackendUrl
    | listen => exact hlisten
    | maxConnections => exact hmaxConnections
    | maxPushes => exact hmaxPushes
    | apiUrl => exact hapiUrl
    | openapi => exact hdescription
    | policy => exact hpolicy
  · intro h
    have hbackendUrl : keyOf? table "upstream" textOf? = some draft.backendUrl :=
      h .backend Setting.noConfusion
    have hlisten : keyOf? table "listen" addressOf? = some draft.listen :=
      h .listen Setting.noConfusion
    have hmaxConnections : keyOf? table "max_connections" countOf? = some draft.maxConnections :=
      h .maxConnections Setting.noConfusion
    have hmaxPushes : keyOf? table "max_pushes" countOf? = some draft.maxPushes :=
      h .maxPushes Setting.noConfusion
    have hapiUrl : keyOf? table "api_url" textOf? = some draft.apiUrl :=
      h .apiUrl Setting.noConfusion
    have hdescription : keyOf? table "openapi" textOf? = some draft.description :=
      h .openapi Setting.noConfusion
    have hpolicy : keyOf? table "rewrite_policy" policyOf? = some draft.replacementPolicy :=
      h .policy Setting.noConfusion
    simp [Draft.ofTable?, hbackendUrl, hlisten, hmaxConnections, hmaxPushes, hapiUrl, hdescription,
      hpolicy]

/-- Whether a text is no policy in another letter case than the policy has. -/
def HasCaseOfPolicy (text : String) : Prop :=
  ∀ policy : ReplacementPolicy, text.toLower = policy.name → text = policy.name

/-- The readers of a policy agree if it is written in its own letter case. -/
theorem parse?_eq_named? {text : String} (hcase : HasCaseOfPolicy text) :
    ReplacementPolicy.parse? text = ReplacementPolicy.named? text := by
  have hlower : ∀ policy : ReplacementPolicy, policy.name.toLower = policy.name := by
    intro policy
    cases policy <;> decide +kernel
  have hname : ∀ policy : ReplacementPolicy, policy.name = text.toLower ↔ policy.name = text := by
    intro policy
    constructor
    · intro h
      exact (hcase policy h.symm).symm
    · rintro rfl
      exact (hlower policy).symm
  simp only [ReplacementPolicy.parse?, ReplacementPolicy.named?, hname]

theorem toOption_valid {α : Type} (value : Option α) : (CommandLine.valid value).toOption = value := by
  cases value <;> rfl

section

variable {assignment : Assignment} (hnumbers : ∀ n ∈ assignment.numbers, n < (2 : Int) ^ 63)
  (hcase : ∀ text, assignment.policy = some text → HasCaseOfPolicy text)

include hnumbers

/-- A file and a command line agree on a number that has 64 bits with its sign. -/
theorem countOf?_eq {n : Int} (hn : n ∈ assignment.numbers) :
    countOf? (.integer n) = (CommandLine.valid (count? (toString n))).toOption := by
  have hlt := hnumbers n hn
  rw [toOption_valid, count?_toString]
  by_cases hneg : n < 0
  · obtain ⟨m, rfl⟩ := Int.eq_negSucc_of_lt_zero hneg
    rw [if_neg fun h => absurd hneg (not_lt.mpr h.1)]
    rfl
  · obtain ⟨m, rfl⟩ := Int.eq_ofNat_of_zero_le (not_lt.mp hneg)
    have hfits : 0 ≤ (m : Int) ∧ (m : Int) < (2 : Int) ^ 64 := by
      norm_num at hlt ⊢
      omega
    rw [if_pos hfits]
    rfl

include hcase

/-- A file and a command line agree on a text or a number, unless it is a number that is too great or a
policy in another letter case. -/
theorem readValue_eq {setting : Setting} {scalar : Scalar}
    (hscalar : assignment.scalar? setting = some scalar) :
    readValue setting scalar.value = (setting.read (argumentText scalar)).toOption := by
  cases setting with
  | config => cases hscalar
  | backend =>
      obtain ⟨text, -, rfl⟩ := Option.map_eq_some_iff.mp hscalar
      rfl
  | listen =>
      obtain ⟨text, -, rfl⟩ := Option.map_eq_some_iff.mp hscalar
      exact (toOption_valid _).symm
  | maxConnections =>
      obtain ⟨n, hn, rfl⟩ := Option.map_eq_some_iff.mp hscalar
      exact countOf?_eq hnumbers (by simp [Assignment.numbers, hn])
  | maxPushes =>
      obtain ⟨n, hn, rfl⟩ := Option.map_eq_some_iff.mp hscalar
      exact countOf?_eq hnumbers (by simp [Assignment.numbers, hn])
  | apiUrl =>
      obtain ⟨text, -, rfl⟩ := Option.map_eq_some_iff.mp hscalar
      rfl
  | openapi => cases hscalar
  | policy =>
      obtain ⟨text, htext, rfl⟩ := Option.map_eq_some_iff.mp hscalar
      exact ((toOption_valid _).trans (parse?_eq_named? (hcase text htext))).symm

/-! ## All settings -/

/-- A setting in a table that holds an assignment is read as the text or number on a command line is. -/
theorem keyOf?_eq_some_iff {table : Table} (hheld : assignment.IsHeldBy table) {setting : Setting}
    (hconfig : setting ≠ .config) {given : Given} :
    keyOf? table (key setting) (readValue setting) = some (given.get? setting) ↔
      Given.IsSetTo {} given setting ((assignment.scalar? setting).map argumentText) := by
  have hempty : ({} : Given).get? setting = none := by
    cases setting <;> rfl
  rw [keyOf?, hheld setting hconfig]
  cases hscalar : assignment.scalar? setting with
  | none =>
      show some none = some (given.get? setting) ↔ given.get? setting = ({} : Given).get? setting
      rw [hempty, Option.some.injEq]
      exact eq_comm
  | some scalar =>
      show (readValue setting scalar.value).map some = some (given.get? setting) ↔
        ({} : Given).get? setting = none ∧ ∃ value,
          setting.read (argumentText scalar) = .ok value ∧ given.get? setting = some value
      rw [readValue_eq hnumbers hcase hscalar]
      cases setting.read (argumentText scalar) with
      | error e => simp [Except.toOption]
      | ok value =>
          simp only [Except.toOption, Option.map_some, Option.some.injEq, Except.ok.injEq, hempty,
            true_and, exists_eq_left']
          exact eq_comm

/-- Arguments and a table that hold the same assignment are read as the same draft. -/
theorem setAll_eq_ofTable? {occurrences : List Occurrence} (hgiven : assignment.IsGivenBy occurrences)
    {table : Table} (hheld : assignment.IsHeldBy table) :
    (Given.setAll {} (occurrences.map Occurrence.item)).toOption =
      (Draft.ofTable? table).map (⟨none, ·⟩) := by
  have hnodup := hgiven.nodup
  rw [← Occurrence.map_fst_item] at hnodup
  have hiff : ∀ draft, Given.setAll {} (occurrences.map Occurrence.item) = .ok ⟨none, draft⟩ ↔
      Draft.ofTable? table = some draft := by
    intro draft
    rw [Given.setAll_eq_ok_iff hnodup, ofTable?_eq_some_iff]
    constructor
    · intro hset setting hconfig
      rw [keyOf?_eq_some_iff hnumbers hcase hheld hconfig, ← hgiven.lookup_eq]
      exact hset setting
    · intro hread setting
      by_cases hconfig : setting = .config
      · subst hconfig
        rw [hgiven.lookup_eq]
        rfl
      · rw [hgiven.lookup_eq, ← keyOf?_eq_some_iff hnumbers hcase hheld hconfig]
        exact hread setting hconfig
  cases hset : Given.setAll {} (occurrences.map Occurrence.item) with
  | error e =>
      cases htable : Draft.ofTable? table with
      | none => rfl
      | some draft =>
          rw [← hiff, hset] at htable
          cases htable
  | ok given =>
      have hnone : given.config = none :=
        Given.config_eq_none hnodup (hgiven.lookup_eq .config) hset
      obtain ⟨config, draft⟩ := given
      obtain rfl : config = none := hnone
      rw [(hiff draft).mp hset]
      rfl

end

end Hypermedia.Configuration
