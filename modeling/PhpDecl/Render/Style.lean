import PhpDecl.Render.Body

/-!
# Styles

A style decides how parameter lists and bodies are laid out; everything else is rendered alike.

* `Style`: the plain style, the wrapping style over another one, and a style whose questions are
  noted;
* `Style.paramList`, `Style.body`, `Style.classTrailer`: what a style decides.
-/

namespace PhpDecl

/-- A layout style. -/
inductive Style where
  /-- Parameters stay on one line unless one has a comment; bodies are compact. -/
  | standard
  /-- Parameter lists wrap at the line width and declarations are set apart by blank lines; other
  bodies are left to the style below. -/
  | extended (next : Style)
  /-- Every question is noted and passed on. -/
  | recorded (inner : Style)
  deriving DecidableEq, Repr

namespace Style

/-- The parameters between the parentheses of a declaration: `column` is where `(` starts, `tail`
the columns of the text that follows `)` on its line. -/
def paramList : Style → List (Option Item) → (column tail depth : Int) → Traced (String × Layout)
  | .standard, params, _, _, depth => do
    let text ← maybeMultiline params true depth
    return (text, if hasComments params then .multiLine else .singleLine)
  | .extended _, params, column, tail, depth => do
    let (text, layout) ← decideLayout params column depth
    if layout = .singleLine && !params.isEmpty && !fits column text tail then
      let text ← split params depth
      .note (.wrapped params.length column)
      return (text, .multiLine)
    else if layout = .multiLine then
      .note (.wrapped params.length column)
      return (text, layout)
    else
      return (text, layout)
  | .recorded inner, params, column, tail, depth => do
    .note (.askedParams params.length column tail depth)
    inner.paramList params column tail depth

/-- The members of a body, each on a new line at `depth`. -/
def body : Style → List (Option Member) → Int → Traced String
  | .standard, members, depth => compactBody members depth
  | .extended next, members, depth =>
    if separated members then do
      .note (.separated members.length depth)
      splitBody members depth
    else
      next.body members depth
  | .recorded inner, members, depth => do
    .note (.askedBody members.length depth)
    inner.body members depth

/-- What follows every class. -/
def classTrailer : Style → String
  | .extended _ => "\n"
  | _ => ""

end Style

end PhpDecl
