import SiteModules.Path
import SiteModules.Proofs.Text.Split

namespace SiteModules

namespace Text

variable {sep : Char}

theorem join_concat {xs : List (List Char)} (hne : xs ≠ []) (y : List Char) :
    join sep (xs ++ [y]) = join sep xs ++ sep :: y := by
  induction xs with
  | nil => exact absurd rfl hne
  | cons x xs ih =>
    cases xs with
    | nil => rfl
    | cons x' xs' =>
      have hrest := ih (List.cons_ne_nil x' xs')
      simp only [List.cons_append, join] at hrest ⊢
      rw [hrest, List.append_assoc, List.cons_append]

theorem split_join {xs : List (List Char)} (hne : xs ≠ []) (h : ∀ x ∈ xs, sep ∉ x) :
    split sep (join sep xs) = xs := by
  induction xs with
  | nil => exact absurd rfl hne
  | cons x xs ih =>
    obtain ⟨hx, hxs⟩ := List.forall_mem_cons.1 h
    cases xs with
    | nil => exact split_of_notMem hx
    | cons x' xs' =>
      rw [join, split_append_sep _ hx, ih (List.cons_ne_nil x' xs') hxs]

theorem notMem_of_mem_split {cs seg : List Char} (hseg : seg ∈ split sep cs) : sep ∉ seg := by
  induction cs generalizing seg with
  | nil => simp_all
  | cons c cs ih =>
    obtain ⟨p, ps, hs⟩ := exists_split_eq sep cs
    rw [hs] at ih
    by_cases hc : c = sep
    · rw [hc, split_sep, hs, List.mem_cons] at hseg
      obtain rfl | hseg := hseg
      · exact List.not_mem_nil
      · exact ih hseg
    · rw [split_cons_of_ne hc hs, List.mem_cons] at hseg
      obtain rfl | hseg := hseg
      · rw [List.mem_cons, not_or]
        exact ⟨Ne.symm hc, ih List.mem_cons_self⟩
      · exact ih (List.mem_cons_of_mem _ hseg)

theorem mem_join_iff {xs : List (List Char)} {c : Char} (hc : c ≠ sep) :
    c ∈ join sep xs ↔ ∃ x ∈ xs, c ∈ x := by
  induction xs with
  | nil => simp [join]
  | cons x xs ih =>
    cases xs with
    | nil => simp [join]
    | cons x' xs' =>
      rw [join, List.mem_append, List.mem_cons, ih]
      simp [hc]

end Text

namespace Path

def IsPart (name : String) : Prop := isName name.toList = true ∧ '/' ∉ name.toList

def IsProper (p : Path) : Prop := ∀ name ∈ p.parts, IsPart name

theorem isPart_of_mem_partsOf {cs : List Char} {name : String} (h : name ∈ partsOf cs) :
    IsPart name := by
  obtain ⟨seg, hseg, rfl⟩ := List.mem_map.1 h
  obtain ⟨hseg, hname⟩ := List.mem_filter.1 hseg
  rw [IsPart, String.toList_ofList]
  exact ⟨hname, Text.notMem_of_mem_split hseg⟩

theorem isProper_ofString (s : String) : (ofString s).IsProper := fun _ => isPart_of_mem_partsOf

theorem IsProper.join {p q : Path} (hp : p.IsProper) (hq : q.IsProper) : (p.join q).IsProper := by
  unfold Path.join
  split
  · exact hq
  · intro name hname
    obtain hname | hname := List.mem_append.1 hname
    · exact hp name hname
    · exact hq name hname

theorem IsProper.child {p : Path} (hp : p.IsProper) (name : String) : (p.child name).IsProper :=
  hp.join (isProper_ofString name)

theorem IsProper.parent {p : Path} (hp : p.IsProper) : p.parent.IsProper := by
  intro name hname
  exact hp name (List.dropLast_subset _ hname)

theorem isAbsolute_child (p : Path) (name : String) :
    (p.child name).isAbsolute = (p.isAbsolute || (ofString name).isAbsolute) := isAbsolute_join p _

theorem chars_eq {p : Path} (h : p.isAbsolute = true ∨ p.parts ≠ []) :
    p.chars = p.root.chars ++ Text.join '/' (p.parts.map String.toList) := by
  obtain ⟨root, parts⟩ := p
  cases root with
  | relative =>
    cases parts with
    | nil => simp [isAbsolute] at h
    | cons name names => rfl
  | single => rfl
  | double => rfl

theorem partsOf_slash (cs : List Char) : partsOf ('/' :: cs) = partsOf cs := by
  simp [partsOf, isName]

theorem partsOf_join {names : List String} (h : ∀ name ∈ names, IsPart name) :
    partsOf (Text.join '/' (names.map String.toList)) = names := by
  cases names with
  | nil => rfl
  | cons first rest =>
    have hslash : ∀ x ∈ (first :: rest).map String.toList, '/' ∉ x := by
      intro x hx
      obtain ⟨name, hname, rfl⟩ := List.mem_map.1 hx
      exact (h name hname).2
    have hnames : ((first :: rest).map String.toList).filter isName =
        (first :: rest).map String.toList := by
      rw [List.filter_eq_self]
      intro x hx
      obtain ⟨name, hname, rfl⟩ := List.mem_map.1 hx
      exact (h name hname).1
    rw [partsOf, Text.split_join (by simp) hslash, hnames, List.map_map]
    simp [Function.comp_def]

theorem head?_join_ne {names : List String} (h : ∀ name ∈ names, IsPart name) :
    (Text.join '/' (names.map String.toList)).head? ≠ some '/' := by
  cases names with
  | nil => simp [Text.join]
  | cons first rest =>
    obtain ⟨hname, hslash⟩ := h first List.mem_cons_self
    obtain ⟨c, cs, hfirst⟩ : ∃ c cs, first.toList = c :: cs := by
      apply List.exists_cons_of_ne_nil
      rintro hnil
      simp [isName, hnil] at hname
    have hhead : (Text.join '/' ((first :: rest).map String.toList)).head? = some c := by
      cases rest with
      | nil => simp [Text.join, hfirst]
      | cons second rest => simp [Text.join, hfirst]
    rw [hhead]
    rintro ⟨⟩
    simp [hfirst] at hslash

theorem ofChars_append {r : Root} {cs : List Char} (h : cs.head? ≠ some '/') :
    Root.ofChars (r.chars ++ cs) = r := by
  cases cs with
  | nil => cases r <;> rfl
  | cons c cs =>
    have hc : c ≠ '/' := by simpa using h
    cases r <;> simp [Root.chars, Root.ofChars, hc]

theorem partsOf_append (r : Root) (cs : List Char) : partsOf (r.chars ++ cs) = partsOf cs := by
  cases r with
  | relative => rfl
  | single => exact partsOf_slash cs
  | double => exact (partsOf_slash _).trans (partsOf_slash cs)

theorem ofString_toString {p : Path} (hp : p.IsProper) : ofString p.toString = p := by
  by_cases h : p.isAbsolute = true ∨ p.parts ≠ []
  · rw [ofString, toString, String.toList_ofList, chars_eq h, partsOf_append, partsOf_join hp,
      ofChars_append (head?_join_ne hp)]
  · obtain ⟨root, parts⟩ := p
    obtain ⟨hroot, hparts⟩ := not_or.1 h
    obtain rfl : parts = [] := Classical.not_not.1 hparts
    obtain rfl : root = .relative := by simpa [isAbsolute] using hroot
    rfl

theorem toString_inj {p q : Path} (hp : p.IsProper) (hq : q.IsProper) :
    p.toString = q.toString ↔ p = q := by
  constructor
  · intro h
    rw [← ofString_toString hp, h, ofString_toString hq]
  · rintro rfl
    rfl

theorem ofChars_slash_ne_relative (cs : List Char) : Root.ofChars ('/' :: cs) ≠ .relative := by
  unfold Root.ofChars
  split <;> simp_all

theorem isAbsolute_ofString_iff {s : String} :
    (ofString s).isAbsolute = true ↔ s.toList.head? = some '/' := by
  cases hs : s.toList with
  | nil => simp [ofString, hs, isAbsolute, Root.ofChars]
  | cons c cs =>
    rw [List.head?_cons, Option.some.injEq]
    constructor
    · intro habsolute
      by_cases hc : c = '/'
      · exact hc
      · simp [ofString, hs, isAbsolute, Root.ofChars, hc] at habsolute
    · rintro rfl
      simpa [ofString, hs, isAbsolute] using ofChars_slash_ne_relative cs

theorem isAbsolute_toString {p : Path} (hp : p.isAbsolute = true) :
    (ofString p.toString).isAbsolute = true := by
  obtain ⟨cs, hcs⟩ : ∃ cs, p.chars = '/' :: cs := by
    rw [chars_eq (.inl hp)]
    cases hroot : p.root with
    | relative => simp [isAbsolute, hroot] at hp
    | single => exact ⟨_, rfl⟩
    | double => exact ⟨_, rfl⟩
  rw [ofString, toString, String.toList_ofList, hcs]
  simpa [isAbsolute] using ofChars_slash_ne_relative cs

end Path

end SiteModules
