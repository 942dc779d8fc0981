-- SUMMARY: How far the language policy follows the settings: pinned languages always lead, aliases of one language may differ.
import SpecCoverage.Proofs.LanguageOrder
import SpecCoverage.Proofs.Order
import SpecCoverage.Proofs.SettingsCheck

/-!
# Configured languages

Names are checked as they are written and used as the languages they stand for. Of the pinned names
the check refuses two for one language, so all of them reach the policy. Of the aliases it does not:
two spellings of a name may be given different targets, and then the last of them in the order of
the spellings holds for both. The policy honours the settings just when no two aliases differ so.
-/
namespace SpecCoverage

open Text

-- ---------------------------------------------------------------------------
-- Aliases
-- ---------------------------------------------------------------------------

namespace LanguageSettings

/-- The last alias, in the order of the spellings, whose name is a spelling of the given one. -/
def aliasFor? (s : LanguageSettings) (name : String) : Option (String × String) :=
  s.aliases.entries.reverse.find? fun a => Language.ofName a.1 = Language.ofName name

/-- Aliases for one language have one target. -/
def AliasesAgree (s : LanguageSettings) : Prop :=
  ∀ a ∈ s.aliases.entries, ∀ b ∈ s.aliases.entries,
    Language.ofName a.1 = Language.ofName b.1 → Language.ofName a.2 = Language.ofName b.2

/-- A configured alias is overridden, if at all, by another one for its language. -/
theorem exists_aliasFor? {s : LanguageSettings} {a : String × String}
    (ha : a ∈ s.aliases.entries) :
    ∃ b ∈ s.aliases.entries, s.aliasFor? a.1 = some b ∧
      Language.ofName b.1 = Language.ofName a.1 := by
  unfold aliasFor?
  cases hfind : s.aliases.entries.reverse.find? fun b =>
      Language.ofName b.1 = Language.ofName a.1 with
  | none =>
    have hne := List.find?_eq_none.1 hfind a (List.mem_reverse.2 ha)
    exact absurd (decide_eq_true rfl) hne
  | some b =>
    have hb : b ∈ s.aliases.entries := List.mem_reverse.1 (List.mem_of_find?_eq_some hfind)
    have hlanguage : Language.ofName b.1 = Language.ofName a.1 := by
      simpa using List.find?_some hfind
    exact ⟨b, hb, rfl, hlanguage⟩

end LanguageSettings

namespace Settings

variable {s : Settings}

/-- A name stands for the target of the alias that holds for it, else for its own language. -/
theorem resolve_policy (s : Settings) (name : String) :
    s.policy.resolve name =
      ((s.languages.aliasFor? name).map fun a => Language.ofName a.2).getD (.ofName name) := by
  have haliases : s.policy.aliases = .ofList
      (s.languages.aliases.entries.map fun a => (Language.ofName a.1, Language.ofName a.2)) := rfl
  rw [LanguagePolicy.resolve, haliases, SortedMap.get?_ofList, ← List.map_reverse, List.find?_map,
    Option.map_map, LanguageSettings.aliasFor?]
  simp only [Function.comp_def]

/-- Each configured alias leads to its own target. -/
def HonoursAliases (s : Settings) : Prop :=
  ∀ a ∈ s.languages.aliases.entries, s.policy.resolve a.1 = .ofName a.2

theorem honoursAliases_iff : s.HonoursAliases ↔ s.languages.AliasesAgree := by
  constructor
  · intro h a ha b hb hab
    rw [← h a ha, ← h b hb, LanguagePolicy.resolve, LanguagePolicy.resolve, hab]
  · intro h a ha
    obtain ⟨b, hb, hfor, hba⟩ := LanguageSettings.exists_aliasFor? ha
    rw [resolve_policy, hfor]
    exact h b hb a ha hba

-- ---------------------------------------------------------------------------
-- Pinned languages
-- ---------------------------------------------------------------------------

/-- Languages in order start with those of them that are pinned, each pinned name once and in the
order in which it is configured. -/
def LeadsWithPinned (s : Settings) : Prop :=
  ∀ ls : List Language, ∃ others,
    s.policy.order ls = (s.languages.pinned.map .ofName).filter (· ∈ ls) ++ others ∧
      ∀ l ∈ others, l ∉ s.languages.pinned.map .ofName

theorem firsts_of_nodup {α : Type} [DecidableEq α] {xs : List α} (h : xs.Nodup) :
    LanguagePolicy.firsts xs = xs := by
  induction xs with
  | nil => rfl
  | cons x xs ih =>
    obtain ⟨hx, hxs⟩ := List.nodup_cons.1 h
    rw [LanguagePolicy.firsts, ih hxs, List.filter_eq_self.2]
    intro y hy
    exact decide_eq_true fun hyx => hx (hyx ▸ hy)

theorem leadsWithPinned_of_check (h : s.check = .ok ()) : s.LeadsWithPinned := by
  intro ls
  have hpinned : s.policy.pinned = s.languages.pinned.map .ofName :=
    firsts_of_nodup (pinned_nodup_of_check h)
  refine ⟨(SortedSet.ofList ls).toList.filter (· ∉ s.policy.pinned), ?_, ?_⟩
  · have hmem (l : Language) : l ∈ SortedSet.ofList ls ↔ l ∈ ls := SortedSet.mem_ofList
    rw [LanguagePolicy.order, ← hpinned]
    simp only [hmem]
  · intro l hl
    rw [← hpinned]
    exact of_decide_eq_true (List.mem_filter.1 hl).2

-- ---------------------------------------------------------------------------
-- The language section
-- ---------------------------------------------------------------------------

/-- The policy does what the language section says. -/
structure HonoursLanguages (s : Settings) : Prop where
  aliases : s.HonoursAliases
  pinned : s.LeadsWithPinned

/-- The policy of accepted settings has the pinned languages in front and follows the last alias for
each language, so it honours the whole section just when aliases for one language agree. -/
theorem honoursLanguages_iff {text : String} (h : read text = .ok s) :
    (s.HonoursLanguages ↔ s.languages.AliasesAgree) ∧ s.LeadsWithPinned ∧
      ∀ name, s.policy.resolve name =
        ((s.languages.aliasFor? name).map fun a => Language.ofName a.2).getD (.ofName name) := by
  have hpinned : s.LeadsWithPinned := leadsWithPinned_of_check (check_of_read h)
  refine ⟨⟨fun hs => honoursAliases_iff.1 hs.aliases, fun hs => ?_⟩, hpinned, resolve_policy s⟩
  exact ⟨honoursAliases_iff.2 hs, hpinned⟩

/-- A language section with one alias for each of two languages. -/
def apartLines : List String :=
  ["[languages]", "pinned = [\"core\", \" Go\"]",
    "aliases = \x7b Rust = \"core\", golang = \"go\" \x7d"]

def apartText : String :=
  String.ofList (joinLines (apartLines.map String.toList))

def apartSettings : Settings :=
  { Settings.default with
    languages := ⟨["core", " Go"], .ofList [("Rust", "core"), ("golang", "go")]⟩ }

theorem honoursLanguages_iff_apart :
    read apartText = .ok apartSettings ∧ apartSettings.HonoursLanguages := by
  have hread : read apartText = .ok apartSettings := by
    rw [read, Toml.read?, apartText, String.toList_ofList]
    decide +kernel
  have hagree : apartSettings.languages.AliasesAgree := by
    unfold LanguageSettings.AliasesAgree
    decide +kernel
  exact ⟨hread, (honoursLanguages_iff hread).1.2 hagree⟩

/-- A language section with two aliases for one language. -/
def rustLines : List String :=
  ["[languages]", "aliases = \x7b Rust = \"core\", rust = \"go\" \x7d"]

def rustText : String :=
  String.ofList (joinLines (rustLines.map String.toList))

def rustSettings : Settings :=
  { Settings.default with
    languages := ⟨["core"], .ofList [("Rust", "core"), ("rust", "go")]⟩ }

/-- Of two aliases that differ in case the first one is accepted and has no effect. -/
theorem not_honoursLanguages_rust :
    read rustText = .ok rustSettings ∧ ("Rust", "core") ∈ rustSettings.languages.aliases.entries ∧
      rustSettings.policy.resolve "Rust" = ⟨"go"⟩ ∧ ¬ rustSettings.HonoursLanguages := by
  have hread : read rustText = .ok rustSettings := by
    rw [read, Toml.read?, rustText, String.toList_ofList]
    decide +kernel
  have hdiffer : ¬ rustSettings.languages.AliasesAgree := by
    unfold LanguageSettings.AliasesAgree
    decide +kernel
  exact ⟨hread, by decide +kernel, by decide +kernel,
    fun h => hdiffer (honoursAliases_iff.1 h.aliases)⟩

end Settings

end SpecCoverage
