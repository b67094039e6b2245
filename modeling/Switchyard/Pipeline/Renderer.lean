import Switchyard.Json.Writer
import Switchyard.Pipeline.Action

/-!
# Rendering

Renderers turn the value of a handler into a body. Each one accepts the value or declines it; the
one that was declared last is asked first, and plain text accepts what all others decline.
-/

namespace Switchyard

/-- Renders a value, or declines it with `false`. -/
abbrev Renderer (σ : Type) := Value → Attempt σ Bool

namespace Renderer

variable {σ : Type}

/-- A body with its content type, unless one is chosen already. -/
def sendDefault (contentType : String) (body : ByteArray) : Attempt σ Bool := do
  Attempt.edit fun ctx => ctx.setDefaultContentType contentType
  Attempt.edit fun ctx => ctx.send body
  return true

/-- Renders every value: text and bytes as they are, JSON in the compact layout. -/
def text : Renderer σ
  | .empty => do
    Attempt.edit fun ctx => ctx.send .empty
    return true
  | .text s => sendDefault "text/plain; charset=utf-8" s.toUTF8
  | .bytes b => sendDefault "application/octet-stream" b
  | .json j => sendDefault "application/json" j.compact.toUTF8

/-- Renders JSON values only, in the layout `write`. -/
def jsonWith (write : Json → String) : Renderer σ
  | .json j => do
    Attempt.edit fun ctx => ctx.setContentType "application/json"
    Attempt.edit fun ctx => ctx.send (write j).toUTF8
    return true
  | _ => return false

def json : Renderer σ := jsonWith Json.compact

def jsonPretty : Renderer σ := jsonWith Json.pretty

/-- The value rendered by the first renderer that accepts it, or as plain text. -/
def firstOf : List (Renderer σ) → Value → Attempt σ Unit
  | [], value => do
    discard (text value)
  | r :: rest, value => do
    if ← r value then return () else firstOf rest value

/-- The value rendered, the renderers being in the order in which they were declared. -/
def render (declared : List (Renderer σ)) (value : Value) : Attempt σ Unit :=
  firstOf declared.reverse value

end Renderer

end Switchyard
