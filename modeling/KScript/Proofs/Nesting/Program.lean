import KScript.Sketch
import KScript.Proofs.Nesting.Outline
import KScript.Proofs.Run.Items
import KScript.Proofs.Statement.Reading

/-!
# Nested programs

A program is a tree of statements, control constructs and blocks.  Its leaves are lines, and every
line carries the proof that it can play its role.
-/

namespace KScript.Nesting

/-- The role of a line in a program. -/
inductive Role where
  | simple
  | ifThen
  | orElseIf
  | orElse
  /-- The header of a `while` or a `for`. -/
  | loop
  | controlEnd
  | opener
  | blockEnd
deriving DecidableEq

namespace Role

/-- The part that a role plays in the nesting. -/
def brace : Role → Brace
  | simple => .plain
  | ifThen | loop | opener => .opens
  | orElseIf | orElse => .turns
  | controlEnd | blockEnd => .closes

/-- Whether a text holds a semicolon outside of literals. -/
def hasSemicolon (t : Text) : Bool := t.skeleton.contains ';'

/-- Whether a text begins a comment. -/
def isComment (t : Text) : Bool := Item.commentMark.isPrefixOf t

/-- Whether a trimmed line can play a role.  Headers that end in a colon would be openers. -/
def fits (t : Text) : Role → Bool
  | simple =>
    !t.isEmpty && !isComment t && !Sketch.isDirective t && !hasSemicolon t && Statement.isSimple t
  | opener => Statement.isOpener t && !isComment t && !hasSemicolon t
  | blockEnd => Statement.isBlockCloser t
  | controlEnd => Statement.isControlCloser t
  | orElse => t == "else".toList
  | orElseIf => "else if ".toList.isPrefixOf t && !Statement.isOpener t && !hasSemicolon t
  | ifThen => "if ".toList.isPrefixOf t && !Statement.isOpener t && !hasSemicolon t
  | loop =>
    ("while ".toList.isPrefixOf t && !hasSemicolon t || "for ".toList.isPrefixOf t) &&
      !Statement.isOpener t

end Role

/-- A line with a role, blanks around it included. -/
structure Line (role : Role) where
  text : Text
  noFeed : '\n' ∉ text
  noReturn : '\r' ∉ text
  fits : role.fits text.trim = true

/-- A line together with its role. -/
abbrev RoleLine := (role : Role) × Line role

mutual

/-- Simple statements and control constructs in sequence. -/
inductive Items where
  | nil
  | simple (line : Line .simple) (rest : Items)
  | branch (head : Line .ifThen) (body : Items) (branches : Branches) (rest : Items)
  | loop (head : Line .loop) (body : Items) (closer : Line .controlEnd) (rest : Items)

/-- What follows the first body of a branch: further parts, in any order, and the closer. -/
inductive Branches where
  | close (closer : Line .controlEnd)
  | orElseIf (head : Line .orElseIf) (body : Items) (rest : Branches)
  | orElse (head : Line .orElse) (body : Items) (rest : Branches)

end

/-- What stands at top level. -/
inductive Part where
  | items (items : Items)
  | block (opener : Line .opener) (body : Items) (closer : Line .blockEnd)

/-- A program. -/
abbrev Program := List Part

/-! ## Lines -/

mutual

def Items.lines : Items → List RoleLine
  | .nil => []
  | .simple line rest => ⟨_, line⟩ :: rest.lines
  | .branch head body branches rest => ⟨_, head⟩ :: (body.lines ++ (branches.lines ++ rest.lines))
  | .loop head body closer rest => ⟨_, head⟩ :: (body.lines ++ ⟨_, closer⟩ :: rest.lines)

def Branches.lines : Branches → List RoleLine
  | .close closer => [⟨_, closer⟩]
  | .orElseIf head body rest => ⟨_, head⟩ :: (body.lines ++ rest.lines)
  | .orElse head body rest => ⟨_, head⟩ :: (body.lines ++ rest.lines)

end

def Part.lines : Part → List RoleLine
  | items is => is.lines
  | block opener body closer => ⟨_, opener⟩ :: (body.lines ++ [⟨_, closer⟩])

namespace Program

/-- The lines of a program in order. -/
def lines (P : Program) : List RoleLine := P.flatMap Part.lines

/-- The text of a program: the marker and the lines. -/
def source (P : Program) : Text := Text.ofLines (Sketch.marker :: P.lines.map fun l => l.2.text)

end Program

/-! ## Outlines -/

mutual

/-- The outline of items with another one after it. -/
def Items.outlineThen (k : Outline) : Items → Outline
  | .nil => k
  | .simple _ rest => .plain (rest.outlineThen k)
  | .branch _ body branches rest =>
    .group (body.outlineThen .nil) branches.turns (rest.outlineThen k)
  | .loop _ body _ rest => .group (body.outlineThen .nil) .close (rest.outlineThen k)

def Branches.turns : Branches → Turns
  | .close _ => .close
  | .orElseIf _ body rest | .orElse _ body rest => .turn (body.outlineThen .nil) rest.turns

end

/-- The outline of a program. -/
def Program.outline : Program → Outline
  | [] => .nil
  | .items is :: P => is.outlineThen (outline P)
  | .block _ body _ :: P => .group (body.outlineThen .nil) .close (outline P)

/-- The braces that lines ask for. -/
def braces (ls : List RoleLine) : List Brace := ls.map fun l => l.1.brace

@[simp] theorem braces_nil : braces [] = [] := rfl

@[simp] theorem braces_cons (l : RoleLine) (ls : List RoleLine) :
    braces (l :: ls) = l.1.brace :: braces ls := rfl

@[simp] theorem braces_append (ls ms : List RoleLine) :
    braces (ls ++ ms) = braces ls ++ braces ms :=
  List.map_append

mutual

theorem Items.braces_outlineThen (is : Items) (k : Outline) :
    (is.outlineThen k).braces = braces is.lines ++ k.braces := by
  match is with
  | .nil => rfl
  | .simple line rest =>
    rw [Items.outlineThen, Outline.braces, rest.braces_outlineThen k]
    rfl
  | .branch head body branches rest =>
    rw [Items.outlineThen, Outline.braces, body.braces_outlineThen .nil, branches.braces_turns,
      rest.braces_outlineThen k]
    simp [Items.lines, Outline.braces, Role.brace]
  | .loop head body closer rest =>
    rw [Items.outlineThen, Outline.braces, body.braces_outlineThen .nil, rest.braces_outlineThen k]
    simp [Items.lines, Outline.braces, Turns.braces, Role.brace]

theorem Branches.braces_turns (b : Branches) : b.turns.braces = braces b.lines := by
  match b with
  | .close closer => rfl
  | .orElseIf head body rest | .orElse head body rest =>
    rw [Branches.turns, Turns.braces, body.braces_outlineThen .nil, rest.braces_turns]
    simp [Branches.lines, Outline.braces, Role.brace]

end

/-- The lines of a program ask for the braces of its outline. -/
theorem Program.braces_outline (P : Program) : P.outline.braces = braces P.lines := by
  induction P with
  | nil => rfl
  | cons part P ih =>
    have hl : Program.lines (part :: P) = part.lines ++ Program.lines P := List.flatMap_cons
    cases part with
    | items is => rw [outline, is.braces_outlineThen, ih, hl, braces_append, Part.lines]
    | block opener body closer =>
      rw [outline, Outline.braces, body.braces_outlineThen .nil, ih, hl]
      simp [Part.lines, Outline.braces, Turns.braces, Role.brace]

end KScript.Nesting
