import RecordFilter.Unicode.Lookup

/-!
# Quoted names

A name is shown between double quotes, with a backslash before quotes of either kind and before
backslashes. Characters that would not be seen, or would join the one before them, are shown by
their numbers, unless a letter stands for them.
-/

namespace RecordFilter.Unicode

def unseenCategories : List String := ["cc", "cf", "cs", "co", "cn", "zl", "zp", "zs"]

def isUnseen (c : Char) : Bool :=
  c != ' ' && unseenCategories.any fun name => (categorySet name).contains c.toNat

def isGraphemeExtend (c : Char) : Bool := (propertySet "graphemeextend").contains c.toNat

def hexText (n : Nat) : List Char := Nat.toDigits 16 n

def shownChar (c : Char) : List Char :=
  match c with
  | '\x00' => ['\\', '0']
  | '\t' => ['\\', 't']
  | '\n' => ['\\', 'n']
  | '\r' => ['\\', 'r']
  | '"' => ['\\', '"']
  | '\'' => ['\\', '\'']
  | '\\' => ['\\', '\\']
  | c =>
    if isUnseen c || isGraphemeExtend c then ['\\', 'u', '\x7b'] ++ hexText c.toNat ++ ['\x7d']
    else [c]

def quoted (name : String) : String := String.ofList ('"' :: name.toList.flatMap shownChar ++ ['"'])

end RecordFilter.Unicode
