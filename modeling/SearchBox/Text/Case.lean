/-!
This module contains upper-case forms that are ASCII. Besides the small letters of ASCII, a few
other characters have one, and some of these forms are several letters.
-/

namespace SearchBox.Text

def asciiUpperForms : List (Char × String) :=
  [('ß', "SS"), ('ı', "I"), ('ſ', "S"), ('ﬀ', "FF"), ('ﬁ', "FI"), ('ﬂ', "FL"), ('ﬃ', "FFI"),
    ('ﬄ', "FFL"), ('ﬅ', "ST"), ('ﬆ', "ST")]

/--
The upper-case form of a character, if it is ASCII. Else the character itself.
-/
def upperChar (c : Char) : List Char :=
  match asciiUpperForms.lookup c with
  | some form => form.toList
  | none => [c.toUpper]

def upper (text : String) : String :=
  String.ofList (text.toList.flatMap upperChar)

end SearchBox.Text
