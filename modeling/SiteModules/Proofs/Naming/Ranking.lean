import Mathlib.Data.List.Nodup
import SiteModules.Proofs.Naming.Canonical

namespace SiteModules.Naming

theorem eraseDups_of_nodup {l : List String} (h : l.Nodup) : l.eraseDups = l := by
  induction l with
  | nil => rfl
  | cons s l ih =>
    obtain ⟨hs, hl⟩ := List.nodup_cons.1 h
    have hfilter : l.filter (fun t => !t == s) = l := by
      rw [List.filter_eq_self]
      intro t ht
      simpa using ne_of_mem_of_not_mem ht hs
    rw [List.eraseDups_cons, hfilter, ih hl]

def leads (n : Naming) (org : String) : List String :=
  (if org = "" then [] else [org ++ "/"]) ++
    (if n.organization = "" then [] else [n.organization ++ "-"]) ++ [""]

def led (n : Naming) (org short : String) : List String :=
  (n.leads org).map (· ++ (n.typePrefix ++ short)) ++ [short]

theorem length_leads (n : Naming) (org : String) :
    (n.leads org).length =
      (if org = "" then 0 else 1) + (if n.organization = "" then 0 else 1) + 1 := by
  simp only [leads, List.length_append]
  split <;> split <;> rfl

theorem append_slash_ne (s t : String) : s ++ "/" ≠ t ++ "-" := by
  intro h
  have hlast := congrArg (·.toList.getLast?) h
  simp at hlast

theorem nodup_leads (n : Naming) (org : String) : (n.leads org).Nodup := by
  unfold leads
  split <;> split <;> simp [append_slash_ne]

theorem led_eq (n : Naming) (org short : String) :
    n.led org short =
      (if org = "" then [] else [n.underScope org short]) ++
        (if n.organization = "" then [] else [n.fullPrefix ++ short]) ++
        [n.typePrefix ++ short, short] := by
  unfold led leads
  split <;> split <;> simp [*, underScope, fullPrefix, typePrefix, String.append_assoc]

theorem length_lt (n : Naming) (lead short : String) :
    short.length < (lead ++ (n.typePrefix ++ short)).length := by
  have hdash : "-".length = 1 := rfl
  simp only [typePrefix, String.length_append, hdash]
  omega

theorem nodup_led (n : Naming) (org short : String) : (n.led org short).Nodup := by
  have hinj : Function.Injective (· ++ (n.typePrefix ++ short)) := by
    intro a b h
    exact (String.append_left_inj _).1 h
  refine List.nodup_append.2 ⟨(n.nodup_leads org).map hinj, List.nodup_singleton _, ?_⟩
  intro c hc d hd heq
  obtain ⟨lead, -, rfl⟩ := List.mem_map.1 hc
  have hlength := n.length_lt lead short
  rw [heq, List.mem_singleton.1 hd] at hlength
  exact Nat.lt_irrefl _ hlength

theorem candidates_eq_led (n : Naming) (request : String) :
    n.candidates request = n.led (ScopedName.ofName request).org (n.shortcutOf request) := by
  rw [candidates_eq, ← led_eq, eraseDups_of_nodup (n.nodup_led _ _)]

theorem mem_led_iff {n : Naming} {org short c : String} :
    c ∈ n.led org short ↔
      (∃ lead ∈ n.leads org, lead ++ (n.typePrefix ++ short) = c) ∨ c = short := by
  simp [led]

structure Ranked (n : Naming) (request : String) : Prop where
  kept : n.candidates request =
    (if (ScopedName.ofName request).org = "" then []
      else [n.underScope (ScopedName.ofName request).org (n.shortcutOf request)]) ++
    (if n.organization = "" then [] else [n.fullPrefix ++ n.shortcutOf request]) ++
    [n.typePrefix ++ n.shortcutOf request, n.shortcutOf request]
  nodup : (n.candidates request).Nodup
  length : (n.candidates request).length =
    2 + (if (ScopedName.ofName request).org ≠ "" then 1 else 0) +
      (if n.organization ≠ "" then 1 else 0)
  first : (n.candidates request).head? = some (n.canonical request).name
  last : (n.candidates request).getLast? = some (n.canonical request).shortcut
  ends : ∀ c ∈ n.candidates request, (n.canonical request).shortcut.toList <:+ c.toList
  shortest : ∀ c ∈ (n.candidates request).dropLast,
    (n.canonical request).shortcut.length < c.length

theorem ranked_candidates (n : Naming) (request : String) : n.Ranked request := by
  have hled := n.candidates_eq_led request
  refine ⟨?kept, ?nodup, ?length, n.head?_candidates request, ?last, ?ends, ?shortest⟩
  case kept => rw [hled, led_eq]
  case nodup =>
    rw [hled]
    exact n.nodup_led _ _
  case length =>
    rw [hled, led, List.length_append, List.length_map, length_leads]
    simp only [ite_not, List.length_singleton]
    omega
  case last => rw [hled, led, List.getLast?_concat, shortcut_canonical]
  case ends =>
    rw [hled, shortcut_canonical]
    intro c hc
    obtain ⟨lead, -, rfl⟩ | rfl := mem_led_iff.1 hc
    · rw [← String.append_assoc, String.toList_append]
      exact List.suffix_append _ _
    · exact List.suffix_refl _
  case shortest =>
    rw [hled, led, List.dropLast_concat, shortcut_canonical]
    intro c hc
    obtain ⟨lead, -, rfl⟩ := List.mem_map.1 hc
    exact n.length_lt lead _

end SiteModules.Naming
