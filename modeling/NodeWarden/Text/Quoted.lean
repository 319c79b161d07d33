import NodeWarden.Text.Numeral

/-! A character as an error message shows it: between single quotes, with a short
escape where there is one and the hexadecimal code point where it would not be seen. -/

namespace NodeWarden

/-- The blanks and controls are the only characters shown, and of these only the
space has a shape of its own. -/
def quoteChar (c : Char) : String :=
  let inner :=
    if c = ' ' then " "
    else if c = '\x00' then "\\0"
    else if c = '\t' then "\\t"
    else if c = '\n' then "\\n"
    else if c = '\r' then "\\r"
    else "\\u\x7b" ++ String.ofList (hexDigits c.toNat) ++ "\x7d"
  "'" ++ inner ++ "'"

end NodeWarden
