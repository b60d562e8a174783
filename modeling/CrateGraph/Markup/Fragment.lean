/-!
Fragments of XML documents and their text.

An element without children is written as an empty tag. Quotes and angle brackets are escaped
everywhere, verbatim sections, comments and instructions aside.
-/

namespace CrateGraph.Markup

inductive Node where
  | text (content : List Char)
  | verbatim (content : List Char)
  | comment (content : List Char)
  | instruction (target content : List Char)
  | element (name : List Char) (attributes : List (List Char × List Char)) (children : List Node)

def escapeCharacter : Char → List Char
  | '&' => "&amp;".toList
  | '<' => "&lt;".toList
  | '"' => "&quot;".toList
  | '>' => "&gt;".toList
  | character => [character]

def escape (content : List Char) : List Char :=
  content.flatMap escapeCharacter

def writeAttribute (name value : List Char) : List Char :=
  ' ' :: name ++ '=' :: '"' :: escape value ++ ['"']

def writeAttributes (attributes : List (List Char × List Char)) : List Char :=
  attributes.flatMap fun (name, value) => writeAttribute name value

mutual

def writeNode : Node → List Char
  | .text content => escape content
  | .verbatim content => "<![CDATA[".toList ++ content ++ "]]>".toList
  | .comment content => "<!--".toList ++ content ++ "-->".toList
  | .instruction target content => "<?".toList ++ target ++ ' ' :: content ++ "?>".toList
  | .element name attributes [] => '<' :: name ++ writeAttributes attributes ++ "/>".toList
  | .element name attributes (child :: rest) =>
      '<' :: name ++ writeAttributes attributes ++ '>' :: writeNode child ++ writeNodes rest ++
        "</".toList ++ name ++ ['>']

def writeNodes : List Node → List Char
  | [] => []
  | node :: rest => writeNode node ++ writeNodes rest

end

example : writeNodes [.element ['a'] [(['b'], "\"1\"".toList)] [], .text "<".toList] =
    "<a b=\"&quot;1&quot;\"/>&lt;".toList := by
  decide +kernel

end CrateGraph.Markup
