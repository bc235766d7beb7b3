/-!
Quoting by doubling: inside quotes, a quote is written twice.
-/

namespace EntityQuery.Text

def doubleChars (quote : Char) : List Char → List Char
  | [] => []
  | c :: rest => if c = quote then quote :: quote :: doubleChars quote rest else c :: doubleChars quote rest

def doubled (quote : Char) (text : String) : String :=
  String.ofList (doubleChars quote text.toList)

def enclose (quote : Char) (text : String) : String :=
  String.singleton quote ++ doubled quote text ++ String.singleton quote

end EntityQuery.Text
