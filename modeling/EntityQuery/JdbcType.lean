/-!
The column types of JDBC: their codes, their SQL names and the Java classes their values are read into.
-/

namespace EntityQuery

inductive JdbcType where
  | bit | tinyInt | smallInt | integer | bigInt
  | float | real | double | numeric | decimal
  | char | varchar | longVarchar
  | date | time | timestamp
  | binary | varBinary | longVarBinary
  | blob | clob | boolean | other
deriving DecidableEq, Repr, Inhabited

namespace JdbcType

/-- Every type once. -/
def all : List JdbcType :=
  [bit, tinyInt, smallInt, integer, bigInt, float, real, double, numeric, decimal, char, varchar,
    longVarchar, date, time, timestamp, binary, varBinary, longVarBinary, blob, clob, boolean, other]

def sqlName : JdbcType → String
  | bit => "BIT"
  | tinyInt => "TINYINT"
  | smallInt => "SMALLINT"
  | integer => "INTEGER"
  | bigInt => "BIGINT"
  | float => "FLOAT"
  | real => "REAL"
  | double => "DOUBLE"
  | numeric => "NUMERIC"
  | decimal => "DECIMAL"
  | char => "CHAR"
  | varchar => "VARCHAR"
  | longVarchar => "LONGVARCHAR"
  | date => "DATE"
  | time => "TIME"
  | timestamp => "TIMESTAMP"
  | binary => "BINARY"
  | varBinary => "VARBINARY"
  | longVarBinary => "LONGVARBINARY"
  | blob => "BLOB"
  | clob => "CLOB"
  | boolean => "BOOLEAN"
  | other => "OTHER"

def code : JdbcType → Int
  | bit => -7
  | tinyInt => -6
  | smallInt => 5
  | integer => 4
  | bigInt => -5
  | float => 6
  | real => 7
  | double => 8
  | numeric => 2
  | decimal => 3
  | char => 1
  | varchar => 12
  | longVarchar => -1
  | date => 91
  | time => 92
  | timestamp => 93
  | binary => -2
  | varBinary => -3
  | longVarBinary => -4
  | blob => 2004
  | clob => 2005
  | boolean => 16
  | other => 1111

/-- The Java class a column is read into unless the mapping names another. -/
def javaType : JdbcType → String
  | bit | boolean => "java.lang.Boolean"
  | tinyInt => "java.lang.Byte"
  | smallInt => "java.lang.Short"
  | integer => "java.lang.Integer"
  | bigInt => "java.lang.Long"
  | float | real => "java.lang.Float"
  | double => "java.lang.Double"
  | numeric | decimal => "java.math.BigDecimal"
  | char | varchar | longVarchar | clob => "java.lang.String"
  | date => "java.sql.Date"
  | time => "java.sql.Time"
  | timestamp => "java.sql.Timestamp"
  | binary | varBinary | longVarBinary | blob => "byte[]"
  | other => "java.lang.Object"

def ofSqlName? (name : String) : Option JdbcType :=
  all.find? fun type => type.sqlName == name

def javaTypes : List (String × JdbcType) :=
  [("java.lang.String", varchar), ("java.lang.Integer", integer), ("int", integer),
    ("java.lang.Long", bigInt), ("long", bigInt), ("java.lang.Short", smallInt), ("short", smallInt),
    ("java.lang.Byte", tinyInt), ("byte", tinyInt), ("java.lang.Boolean", boolean),
    ("boolean", boolean), ("java.lang.Double", double), ("double", double),
    ("java.lang.Float", float), ("float", float), ("java.math.BigDecimal", decimal),
    ("java.math.BigInteger", bigInt), ("java.lang.Character", char), ("char", char),
    ("java.util.Date", timestamp), ("java.sql.Date", date), ("java.sql.Time", time),
    ("java.sql.Timestamp", timestamp), ("java.time.LocalDate", date), ("java.time.LocalTime", time),
    ("java.time.LocalDateTime", timestamp), ("byte[]", varBinary)]

def ofJavaType? (name : String) : Option JdbcType :=
  javaTypes.lookup name

end JdbcType

end EntityQuery
