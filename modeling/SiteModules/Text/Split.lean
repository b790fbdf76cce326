namespace SiteModules.Text

def split (sep : Char) : List Char → List (List Char)
  | [] => [[]]
  | c :: cs =>
    if c = sep then [] :: split sep cs
    else match split sep cs with
      | [] => [[c]]
      | p :: ps => (c :: p) :: ps

def join (sep : Char) : List (List Char) → List Char
  | [] => []
  | [p] => p
  | p :: q :: ps => p ++ sep :: join sep (q :: ps)

@[simp] theorem split_nil (sep : Char) : split sep [] = [[]] := rfl

@[simp] theorem split_sep (sep : Char) (cs : List Char) :
    split sep (sep :: cs) = [] :: split sep cs := by simp [split]

theorem split_ne_nil (sep : Char) (cs : List Char) : split sep cs ≠ [] := by
  cases cs with
  | nil => simp
  | cons c cs =>
    unfold split
    split
    · simp
    · split <;> simp

@[simp] theorem join_split (sep : Char) (cs : List Char) : join sep (split sep cs) = cs := by
  induction cs with
  | nil => rfl
  | cons c cs ih =>
    unfold split
    have hne := split_ne_nil sep cs
    split
    · next h =>
      subst h
      cases hs : split c cs with
      | nil => exact absurd hs hne
      | cons p ps => rw [hs] at ih; simp [join, ih]
    · split
      · next hs => exact absurd hs hne
      · next p ps hs =>
        rw [hs] at ih
        cases ps with
        | nil => simpa [join] using ih
        | cons q qs => simpa [join] using ih

def unixLines : List Char → List Char
  | [] => []
  | '\r' :: '\n' :: cs => '\n' :: unixLines cs
  | '\r' :: cs => '\n' :: unixLines cs
  | c :: cs => c :: unixLines cs

def cut? (sep : Char) : List Char → Option (List Char × List Char)
  | [] => none
  | c :: cs =>
    if c = sep then some ([], cs)
    else (cut? sep cs).map fun (a, b) => (c :: a, b)

end SiteModules.Text
