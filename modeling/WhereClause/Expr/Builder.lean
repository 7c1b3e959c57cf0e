import WhereClause.Expr

/-!
# Building expressions

Short names for the expressions that filters are made of.
-/

namespace WhereClause.Expr

/-- A column of the row. -/
def column (name : String) (enum : Option EnumType) : Expr := member row name enum

/-- The constant null. -/
def null : Expr := constant .null

/-- A text constant. -/
def text (s : String) : Expr := constant (.text s)

/-- A member of an enum, as its ordinal. -/
def ordinal (n : Int64) : Expr := constant (.number (.signed n))

/-- A binary expression whose operator is given by a symbol. -/
def binaryOfSymbol? (symbol : String) (left right : Expr) : Option Expr :=
  (Operator.ofSymbol? symbol).map fun op => binary op left right

/-! ## Operators -/

def and (a b : Expr) : Expr := binary (.connective .and) a b
def or (a b : Expr) : Expr := binary (.connective .or) a b
def eq (a b : Expr) : Expr := binary (.comparison .eq) a b
def ne (a b : Expr) : Expr := binary (.comparison .ne) a b
def gt (a b : Expr) : Expr := binary (.comparison .gt) a b
def ge (a b : Expr) : Expr := binary (.comparison .ge) a b
def lt (a b : Expr) : Expr := binary (.comparison .lt) a b
def le (a b : Expr) : Expr := binary (.comparison .le) a b
def add (a b : Expr) : Expr := binary (.arithmetic .add) a b
def sub (a b : Expr) : Expr := binary (.arithmetic .sub) a b
def mul (a b : Expr) : Expr := binary (.arithmetic .mul) a b
def div (a b : Expr) : Expr := binary (.arithmetic .div) a b
def mod (a b : Expr) : Expr := binary (.arithmetic .mod) a b
def coalesce (a b : Expr) : Expr := binary .coalesce a b

/-- The test for null. -/
def isNull (a : Expr) : Expr := eq a null

/-- The test for what is not null. -/
def isNotNull (a : Expr) : Expr := ne a null

/-! ## Text methods -/

def trim (a : Expr) : Expr := call a "Trim" []
def trimStart (a : Expr) : Expr := call a "TrimStart" []
def trimEnd (a : Expr) : Expr := call a "TrimEnd" []
def toUpper (a : Expr) : Expr := call a "ToUpper" []
def toLower (a : Expr) : Expr := call a "ToLower" []
def startsWith (a : Expr) (needle : String) : Expr := call a "StartsWith" [text needle]
def endsWith (a : Expr) (needle : String) : Expr := call a "EndsWith" [text needle]
def contains (a : Expr) (needle : String) : Expr := call a "Contains" [text needle]

end WhereClause.Expr
