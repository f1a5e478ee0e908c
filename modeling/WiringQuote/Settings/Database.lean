import WiringQuote.Settings.Basic
import WiringQuote.Text.Cased

/-!
# The address of the database

The scheme of an address names the kind of database and, behind a plus sign, the driver that is used
to reach it. Addresses of the usual kind that name no driver get it added; without an address there
is one for development. An address is refused if it has no scheme, if its port is no number, or if
its database cannot be reached by a driver that waits for no answer.
-/

namespace WiringQuote.Settings

open Decimal Text

/-- The scheme of every address that is used. -/
def databaseScheme : String := "postgresql+asyncpg://"

/-- The address that stands in for a missing one. -/
def developmentAddress : String :=
  databaseScheme ++ "elektro:dev_placeholder@localhost:5432/elektro_offers"

/-- The text behind a beginning. -/
def behind? (start text : String) : Option String :=
  if text.startsWith start then some (String.ofList (text.toList.drop start.length)) else none

/-- The text occurs somewhere in another one. -/
def occursIn (part : List Char) : List Char → Bool
  | [] => part.isEmpty
  | c :: rest => part.isPrefixOf (c :: rest) || occursIn part rest

/-- The address with its driver. -/
def withDriver (address : String) : String :=
  let named :=
    match behind? "postgresql://" address with
    | some rest =>
      if occursIn "+asyncpg".toList address.toList then address else databaseScheme ++ rest
    | none => address
  match behind? "postgres://" named with
  | some rest => databaseScheme ++ rest
  | none => named

/-! ## Parts of an address -/

/-- A character of a scheme. -/
def isSchemeChar (c : Char) : Bool := c.isAlphanum || c == '_' || c == '+' || (isCased c && !isAscii c)

/-- The scheme of an address and the text behind it. -/
def splitScheme? (address : String) : Option (String × List Char) :=
  let cs := address.toList
  let scheme := cs.takeWhile isSchemeChar
  match cs.dropWhile isSchemeChar with
  | ':' :: '/' :: '/' :: rest => if scheme.isEmpty then none else some (String.ofList scheme, rest)
  | _ => none

/-- The text behind the last occurrence of a character, if there is one. -/
def behindLast? (c : Char) (cs : List Char) : Option (List Char) :=
  if cs.contains c then some (cs.reverse.takeWhile (· != c)).reverse else none

/-- The text behind the name and the password of a user. A password may hold every character but the
at sign that ends it, a name neither colons nor slashes. -/
def behindUser (cs : List Char) : List Char :=
  let name := cs.takeWhile fun c => c != ':' && c != '/'
  let rest := cs.drop name.length
  if rest.head? == some ':' && rest.contains '@' then (rest.dropWhile (· != '@')).drop 1
  else match behindLast? '@' name with
    | some last => last ++ rest
    | none => cs

/-- The text behind the host. A host between brackets may hold colons. -/
def behindHost (cs : List Char) : List Char :=
  let place := cs.takeWhile fun c => c != '/' && c != '?'
  let inner := place.drop 1
  match place.head? == some '[', behindLast? ']' inner with
  | true, some last =>
    if last.length + 1 = inner.length then cs.dropWhile fun c => c != '/' && c != ':' && c != '?'
    else last ++ cs.drop place.length
  | _, _ => cs.dropWhile fun c => c != '/' && c != ':' && c != '?'

/-- The text of the port, empty if there is none. -/
def portText (cs : List Char) : String :=
  match behindHost (behindUser cs) with
  | ':' :: rest => String.ofList (rest.takeWhile fun c => c != '/' && c != '?')
  | _ => ""

/-- The name of the database, empty if there is none. -/
def databaseName (cs : List Char) : String :=
  let behindPort := match behindHost (behindUser cs) with
    | ':' :: rest => rest.dropWhile fun c => c != '/' && c != '?'
    | rest => rest
  match behindPort with
  | '/' :: name => String.ofList (name.takeWhile (· != '?'))
  | _ => ""

/-! ## Drivers -/

/-- Why an address is refused. -/
inductive DatabaseFault where
  | unreadable
  | port (fault : SettingFault)
  | manyDrivers
  | unknownKind (scheme : String)
  /-- A driver that is not at hand. -/
  | noDriver (module : String)
  /-- A driver that waits for answers. -/
  | waiting (driver : String)
  /-- Connections that are not kept in the way that is asked for. -/
  | noPool (options : List String) (connections : String)
deriving DecidableEq, Repr

def DatabaseFault.message : DatabaseFault → String
  | .unreadable => "Could not parse SQLAlchemy URL from given URL string"
  | .port fault => fault.message
  | .manyDrivers => "too many values to unpack (expected 2)"
  | .unknownKind scheme => "Can't load plugin: sqlalchemy.dialects:" ++ scheme
  | .noDriver module => "No module named " ++ quoted module
  | .waiting driver =>
    "The asyncio extension requires an async driver to be used. The loaded " ++ quoted driver ++
      " is not async."
  | .noPool options connections =>
    "Invalid argument(s) " ++ ",".intercalate (options.map quoted) ++
      " sent to create_engine(), using configuration " ++ connections ++
      "/Engine.  Please check that the keyword arguments are appropriate for this combination of " ++
      "components."

/-- The drivers that are not at hand, by the kind of database and the driver that a scheme names. -/
def absentDrivers : List (String × String) :=
  [ ("postgresql", "psycopg2"), ("postgresql+psycopg2", "psycopg2"),
    ("postgresql+psycopg", "psycopg"), ("postgresql+pg8000", "pg8000"),
    ("mysql", "MySQLdb"), ("mysql+mysqldb", "MySQLdb"), ("mysql+pymysql", "pymysql"),
    ("mysql+aiomysql", "aiomysql"), ("mysql+asyncmy", "asyncmy"), ("mariadb", "MySQLdb"),
    ("mariadb+mysqldb", "MySQLdb"), ("mariadb+pymysql", "pymysql"),
    ("oracle", "cx_Oracle"), ("oracle+cx_oracle", "cx_Oracle"), ("oracle+oracledb", "oracledb"),
    ("mssql", "pyodbc"), ("mssql+pyodbc", "pyodbc"), ("mssql+pymssql", "pymssql")]

/-- The name of a database that is kept in memory only. -/
def inMemory (name : String) : Bool := name.isEmpty || name == ":memory:"

/-- Refuses a scheme that no usable driver belongs to; `name` is the name of the database. -/
def requireDriver (scheme name : String) : Except DatabaseFault Unit :=
  if scheme = "postgresql+asyncpg" then .ok ()
  else if scheme = "sqlite" ∨ scheme = "sqlite+pysqlite" then
    if inMemory name then
      .error (.noPool ["max_overflow", "pool_timeout"] "SQLiteDialect_pysqlite/SingletonThreadPool")
    else .error (.waiting "pysqlite")
  else if scheme = "sqlite+aiosqlite" then
    if inMemory name then
      .error (.noPool ["pool_size", "max_overflow", "pool_timeout"]
        "SQLiteDialect_aiosqlite/StaticPool")
    else .ok ()
  else match absentDrivers.find? fun entry => entry.1 = scheme with
    | some (_, module) => .error (.noDriver module)
    | none =>
      if 2 < (pieces '+' scheme).length then .error .manyDrivers
      else .error (.unknownKind (replaceChar '+' '.' scheme))

/-- Refuses an address that cannot be used. -/
def requireUsable (address : String) : Except DatabaseFault Unit :=
  match splitScheme? address with
  | none => .error .unreadable
  | some (scheme, rest) => do
    let port := portText rest
    if !port.isEmpty then
      let _ ← (whole port).mapError .port
    requireDriver scheme (databaseName rest)

/-- The address that is set, if it is not empty. -/
def databaseAddress? (texts : OrderedMap String String) : Option String :=
  (texts.get? "DATABASE_URL").filter (!·.isEmpty)

/-- The address that is set, or the one for development, with its driver. -/
def databaseAddress (texts : OrderedMap String String) : Except DatabaseFault String := do
  let address := withDriver ((databaseAddress? texts).getD developmentAddress)
  requireUsable address
  return address

example : withDriver "postgres://h/postgres://d" = "postgresql+asyncpg://h/postgres://d" := by
  decide +kernel
example : portText "u:p:w@[::1]:80/d".toList = "80" := by decide +kernel

end WiringQuote.Settings
