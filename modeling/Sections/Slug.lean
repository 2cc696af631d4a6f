/-!
# Slugs

A slug is a title reduced to lower case letters `a` to `z` and digits, with a hyphen for each run
of other characters between them.
-/

namespace Sections

def isSlugChar (c : Char) : Bool := ('a' ≤ c && c ≤ 'z') || ('0' ≤ c && c ≤ '9')

/--
Lower case, as far as slugs depend on it.  Of the characters outside ASCII, the dotted
capital I and the Kelvin sign are the only ones whose lower case holds an ASCII letter;
every other one stands for itself here.
-/
def lowercase (c : Char) : List Char :=
  if c = '\u0130' then ['i', '\u0307']
  else if c = '\u212a' then ['k']
  else [c.toLower]

/--
Keeps the slug characters, with one hyphen wherever others separate two of
them.  `started` once one is kept, `pending` when others were skipped since.
-/
def slugChars : (started pending : Bool) → List Char → List Char
  | _, _, [] => []
  | started, pending, c :: cs =>
    if isSlugChar c then
      if started && pending then '-' :: c :: slugChars true false cs
      else c :: slugChars true false cs
    else slugChars started true cs

def slugifyWith (lower : Char → List Char) (title : List Char) : List Char :=
  slugChars false false (title.flatMap lower)

def slugify (title : String) : String := String.ofList (slugifyWith lowercase title.toList)

structure SiblingSlugs where
  used : List String := []
  nextSuffix : List (String × Nat) := []
  deriving DecidableEq, Repr, Inhabited

namespace SiblingSlugs

def suffixed (base : String) (suffix : Nat) : String := base ++ "-" ++ toString suffix

/--
The least suffix from `first` on whose slug is free.  Among as many candidates as there
are used slugs, and one more, at least one is.
-/
def freeSuffix (used : List String) (base : String) (first : Nat) : Nat :=
  ((List.range' first (used.length + 1)).find? fun suffix =>
    !used.contains (suffixed base suffix)).getD
    first

/-- Hands out a slug: `base` itself while it is free, else `base-1`, `base-2` and so on. -/
def claim (siblings : SiblingSlugs) (base : String) : String × SiblingSlugs :=
  if !siblings.used.contains base then (base, { siblings with used := base :: siblings.used })
  else
    let suffix := freeSuffix siblings.used base ((siblings.nextSuffix.lookup base).getD 1)
    let slug := suffixed base suffix
    (slug, ⟨slug :: siblings.used,
      (base, suffix + 1) :: siblings.nextSuffix.filter fun entry => entry.1 != base⟩)

end SiblingSlugs

end Sections
