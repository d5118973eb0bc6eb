/-!
# Columns

Texts filled up with a character to a least width.  A text that is wide enough stays as it is.
-/

set_option autoImplicit false

namespace SignedDifference.Text

def fillTo (width : Nat) (filler : Char) (text : String) : String :=
  String.ofList (List.replicate (width - text.length) filler)

def alignRight (width : Nat) (filler : Char) (text : String) : String :=
  fillTo width filler text ++ text

def alignLeft (width : Nat) (text : String) : String :=
  text ++ fillTo width ' ' text

end SignedDifference.Text
