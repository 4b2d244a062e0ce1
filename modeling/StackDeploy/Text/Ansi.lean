/-!
# Terminal control sequences

The few control sequences that the program writes: colours and weights of text, and erasing lines.
-/

namespace StackDeploy.Ansi

/-- How a piece of text is set off. -/
inductive Style where
  | bold
  | dimmed
  | red
  | green
  | yellow
deriving DecidableEq, Repr

/-- The number that switches a style on. -/
def Style.code : Style → String
  | bold => "1"
  | dimmed => "2"
  | red => "31"
  | green => "32"
  | yellow => "33"

/-- The sequence that switches a style on. -/
def Style.start (style : Style) : String :=
  "\x1b[" ++ style.code ++ "m"

/-- The sequence that switches everything off. -/
def stop : String := "\x1b[0m"

/-- The text with a sequence put after every place where everything is switched off. -/
def resumeWith (start : List Char) : List Char → List Char
  | [] => []
  | '\x1b' :: '[' :: '0' :: 'm' :: rest =>
    '\x1b' :: '[' :: '0' :: 'm' :: (start ++ resumeWith start rest)
  | c :: rest => c :: resumeWith start rest

/-- The text between the sequences that switch a style on and everything off. Where the text itself
switches everything off, the style is switched on again, so it holds up to the end. -/
def paint (style : Style) (text : String) : String :=
  style.start ++ String.ofList (resumeWith style.start.toList text.toList) ++ stop

/-- Moves the cursor up by a number of lines and erases from there to the end of the screen. -/
def eraseLines (n : Nat) : String :=
  "\x1b[" ++ toString n ++ "A\x1b[J"

end StackDeploy.Ansi
