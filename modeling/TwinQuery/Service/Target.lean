/-
# The target of a request

The path of a request is brought into the form in which the paths of routes
are written: with one slash before it, without steps that stay or go back, and
with the characters that its escapes stand for.

Key definitions: `dropHost`, `rooted`, `dropDots`, `resolveEscapes`.
-/
import TwinQuery.Service.Request

namespace TwinQuery

/-- A path without the name of a host, which begins with two slashes. -/
def dropHost : Text → Text
  | '/' :: '/' :: rest => rest.dropWhile (· != '/')
  | path => path

/-- A path with exactly one slash before it. -/
def rooted (path : Text) : Text := '/' :: path.dropWhile (· == '/')

/-- The steps of a path that remain when single dots stay and double dots go
back, but not beyond the root. `walked` holds the steps so far in reverse. -/
def dropDotSteps (walked : List Text) : List Text → List Text
  | [] => walked.reverse
  | step :: steps =>
    if step = [.char '.'] then dropDotSteps walked steps
    else if step = [.char '.', .char '.'] then
      dropDotSteps (if walked = [[]] then walked else walked.tail) steps
    else dropDotSteps (step :: walked) steps

/-- A path without dots that stand for steps. -/
def dropDots (path : Text) : Text := Text.joinWith ['/'] (dropDotSteps [] (Text.cutAt '/' path))

/-- The text that escapes with a percent sign stand for. Only those of ASCII
characters are resolved, as no route has others. -/
def resolveEscapes : Text → Text
  | '%' :: a :: b :: rest =>
    match Json.hex4? ['0', '0', a, b] with
    | some code =>
      if code < 0x80 then CodePoint.ofNat code :: resolveEscapes rest
      else '%' :: resolveEscapes (a :: b :: rest)
    | none => '%' :: resolveEscapes (a :: b :: rest)
  | c :: rest => c :: resolveEscapes rest
  | [] => []

end TwinQuery
