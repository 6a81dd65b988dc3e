import DocstringTags.Tags.Search

set_option autoImplicit false

namespace DocstringTags

inductive Format where
  | plain
  | epytext
  | rest
  | numpy
  | google
  deriving DecidableEq, Repr

def epytextTokens : List String :=
  ["@param", "@type", "@keyword", "@kwarg", "@kwparam", "@return", "@rtype", "@raise", "@ivar",
   "@cvar", "@var", "@group", "@sort", "@see", "@note", "@attention", "@bug", "@warning",
   "@version", "@todo", "@deprecated", "@since", "@status", "@change", "@permission", "@requires",
   "@precondition", "@postcondition", "@invariant", "@author", "@organization", "@copyright",
   "@license", "@contact", "@summary"]

def restTokens : List String :=
  [":param", ":parameter", ":arg", ":argument", ":key", ":keyword", ":type", ":raises", ":raise",
   ":except", ":exception", ":var", ":ivar", ":cvar", ":vartype", ":returns", ":return", ":rtype",
   ":meta"]

namespace Format

def all : List Format := [.plain, .epytext, .rest, .numpy, .google]

def tags? : Format → Option TagSet
  | .epytext => some (TagSet.ofTokens epytextTokens .wordEnd)
  | .rest => some (TagSet.ofTokens restTokens .wordEnd)
  | .plain | .numpy | .google => none

def name : Format → String
  | .plain => "plain"
  | .epytext => "epytext"
  | .rest => "rest"
  | .numpy => "numpy"
  | .google => "google"

instance : ToString Format := ⟨name⟩

def fold (text : String) : String := String.ofList ((Text.trim text.toList).map Char.toLower)

/-- The format of a folded name. No name at all means the plain format. -/
def ofFolded? : String → Option Format
  | "" | "plain" => some .plain
  | "epytext" | "epydoc" => some .epytext
  | "rest" | "restructuredtext" | "sphinx" => some .rest
  | "numpy" => some .numpy
  | "google" => some .google
  | _ => none

def ofName? (text : String) : Option Format := ofFolded? (fold text)

end Format

end DocstringTags
