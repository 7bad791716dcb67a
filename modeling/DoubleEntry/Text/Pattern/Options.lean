import DoubleEntry.Text.CharSet

/-!
# Options of patterns

Options say how the characters of a pattern are meant.  Each one has a letter.
-/

namespace DoubleEntry.Text.Pattern

structure Options where
  ignoresCase : Bool
  hasLines : Bool
  dotTakesAll : Bool
  prefersFewer : Bool
  isUnicode : Bool
  linesEndWithReturns : Bool
  ignoresBlanks : Bool
  deriving DecidableEq, Repr

namespace Options

def standard : Options where
  ignoresCase := false
  hasLines := false
  dotTakesAll := false
  prefersFewer := false
  isUnicode := true
  linesEndWithReturns := false
  ignoresBlanks := false

def switch? (options : Options) (letter : Char) (value : Bool) : Option Options :=
  match letter with
  | 'i' => some { options with ignoresCase := value }
  | 'm' => some { options with hasLines := value }
  | 's' => some { options with dotTakesAll := value }
  | 'U' => some { options with prefersFewer := value }
  | 'u' => some { options with isUnicode := value }
  | 'R' => some { options with linesEndWithReturns := value }
  | 'x' => some { options with ignoresBlanks := value }
  | _ => none

/-- Letters before a minus sign switch on, those behind it switch off; none may stand twice. -/
def switchAll? (options : Options) (letters : List Char) : Option Options := do
  guard (letters.Nodup && letters.getLast? ≠ some '-')
  let on := letters.takeWhile fun c => c ≠ '-'
  let off := (letters.drop on.length).drop 1
  let options ← on.foldlM (fun options letter => options.switch? letter true) options
  off.foldlM (fun options letter => options.switch? letter false) options

/-- The ranges that stand for `ranges`; without regard to case only those of ASCII letters do. -/
def cased? (options : Options) (ranges : List (Nat × Nat)) : Option (List (Nat × Nat)) :=
  if !options.ignoresCase then some ranges
  else if options.isUnicode then none
  else some (ranges.flatMap CharSet.withOtherCase)

end Options

end DoubleEntry.Text.Pattern
