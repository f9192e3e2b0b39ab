/-!
# Context modes

A device offers one GPU execution context for ordinary content and, where it can, a second one for
protected content. Images belong to exactly one of the two and never cross over.
-/

set_option autoImplicit false

namespace Compositor

/-- Which of the two GPU execution contexts an image or an operation belongs to. -/
inductive Mode where
  | normal
  | secure
  deriving DecidableEq, Repr

namespace Mode

/-- The mode that content needs: the secure one exactly when the content is protected. -/
def ofProtected : Bool → Mode
  | true => .secure
  | false => .normal

def isSecure : Mode → Bool
  | .normal => false
  | .secure => true

def name : Mode → String
  | .normal => "normal"
  | .secure => "protected"

def all : List Mode := [.normal, .secure]

/-- Reads a written name back; no other spelling names a mode. -/
def ofName? (text : String) : Option Mode := all.find? fun mode => mode.name == text

end Mode

end Compositor
