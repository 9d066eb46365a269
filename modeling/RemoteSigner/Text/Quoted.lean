import RemoteSigner.Text.Basic
import RemoteSigner.Text.Printable

/-!
# Quoted text

Error texts quote what they complain about. The quote is `'`, or `"` where that saves an escape;
backslashes, the chosen quote and unprintable characters are escaped, all else stands for itself.
-/

namespace RemoteSigner.Quoted

/-- The quote mark: `"` only for text that has `'` and no `"`. -/
def mark (codes : List Nat) : Char :=
  if codes.contains '\''.toNat && !codes.contains '"'.toNat then '"' else '\''

/-- One code point between quotes `q`. -/
def escape (q : Char) (code : Nat) : List Char :=
  if code = q.toNat then ['\\', q]
  else if code = '\\'.toNat then ['\\', '\\']
  else if code = '\n'.toNat then ['\\', 'n']
  else if code = '\r'.toNat then ['\\', 'r']
  else if code = '\t'.toNat then ['\\', 't']
  else if isPrintable code then [Char.ofNat code]
  else if code < 0x100 then '\\' :: 'x' :: hexPadded 2 code
  else if code < 0x10000 then '\\' :: 'u' :: hexPadded 4 code
  else '\\' :: 'U' :: hexPadded 8 code

/-- The code points between quotes. -/
def chars (codes : List Nat) : List Char :=
  let q := mark codes
  q :: codes.flatMap (escape q) ++ [q]

end RemoteSigner.Quoted

namespace RemoteSigner

/-- The text in quotes. -/
def Text.quoted (t : Text) : String := String.ofList (Quoted.chars t.codes)

/-- The string in quotes. -/
def quoted (s : String) : String := (Text.whole s).quoted

end RemoteSigner
