import LineJoin.RuleSet.Basic

/-!
# The registered languages

Every rule set that can be asked for by name, in the order of registration, and the other names
under which editors and file extensions know the same languages. Each rule set is registered under
its own name.
-/

namespace LineJoin.RuleSet

/-- The C family with all three quotes: what is used when no language is named. -/
def fallback : RuleSet := { name := "default".toList }

/-- The registered rule sets. -/
def registry : List RuleSet := [
  fallback,
  { name := "c".toList
    quotes := [.single, .double]
    lineContinuation := some ['\\'] },
  { name := "cpp".toList
    quotes := [.single, .double]
    lineContinuation := some ['\\'] },
  { name := "csharp".toList
    quotes := [.single, .double] },
  { name := "java".toList
    quotes := [.single, .double] },
  { name := "go".toList },
  { name := "rust".toList
    lineMarkers := [['/', '/', '/'], ['/', '/', '!'], ['/', '/']]
    quotes := [.double] },
  { name := "javascript".toList },
  { name := "typescript".toList },
  { name := "css".toList
    lineMarkers := []
    quotes := [.single, .double] },
  { name := "python".toList
    lineMarkers := [['#']]
    block := none
    quotes := [.single, .double]
    continuation := none
    lineContinuation := some ['\\'] },
  { name := "shell".toList
    lineMarkers := [['#']]
    block := none
    continuation := none
    lineContinuation := some ['\\'] },
  { name := "ruby".toList
    lineMarkers := [['#']]
    block := none
    continuation := none
    lineContinuation := some ['\\'] },
  { name := "sql".toList
    lineMarkers := [['-', '-']]
    quotes := [.single, .double] },
  { name := "lua".toList
    lineMarkers := [['-', '-']]
    block := some (['-', '-', '[', '['], [']', ']'])
    quotes := [.single, .double]
    continuation := none }]

/-- Other names of languages, each with the tag it stands for. -/
def aliases : List (Text × Text) :=
  [("h", "c"), ("c++", "cpp"), ("cc", "cpp"), ("hpp", "cpp"), ("cs", "csharp"), ("golang", "go"),
   ("rs", "rust"), ("js", "javascript"), ("jsx", "javascript"), ("javascriptreact", "javascript"),
   ("mjs", "javascript"), ("ts", "typescript"), ("tsx", "typescript"),
   ("typescriptreact", "typescript"), ("scss", "css"), ("less", "css"), ("py", "python"),
   ("sh", "shell"), ("bash", "shell"), ("zsh", "shell"), ("shellscript", "shell"),
   ("rb", "ruby"), ("kotlin", "java"), ("kt", "java"), ("swift", "default"),
   ("jsonc", "default")].map fun (name, tag) => (name.toList, tag.toList)

/-- The registered rule set of a tag. -/
def ofTag? (tag : Text) : Option RuleSet := registry.find? (·.name == tag)

/-- Texts in code point order. -/
def inOrder (names : List Text) : List Text := names.mergeSort Text.le

/-- The tags of the registered rule sets, in order. -/
def tags : List Text := inOrder (registry.map (·.name))

end LineJoin.RuleSet
