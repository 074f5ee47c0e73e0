import McpSqlServer.Library.Python.IntText
import McpSqlServer.Library.Text.Attributes
import McpSqlServer.Models
import McpSqlServer.Tools.InputValidation

namespace McpSqlServer.ConnectionManager

open Library.Text Library.Python

structure Credentials where
  username : Str
  password : Str

abbrev Getenv := Str → Option Str

def secretResolver [UnicodeData] (getenv : Getenv) (secretRef : Str) : Credentials :=
  let envName := (upper secretRef).map (fun c ↦ if c = '/' then '_' else c)
  { username := (getenv (envName ++ "_USERNAME".toList)).getD "readonly_user".toList
    password := (getenv (envName ++ "_PASSWORD".toList)).getD "change-me".toList }

def odbcDriver (getenv : Getenv) : Str :=
  (getenv "FASTMCP_ODBC_DRIVER".toList).getD "ODBC Driver 17 for SQL Server".toList

def connectionString (getenv : Getenv) (resolver : Str → Credentials) (inst : SqlInstanceConfig)
    (databaseOverride : Option Str) : Str :=
  let creds := resolver inst.authSecretRef
  "DRIVER=\x7b".toList ++ odbcDriver getenv ++ "\x7d;".toList ++
    "SERVER=".toList ++ inst.host ++ ",".toList ++ intText inst.port ++ ";".toList ++
    "DATABASE=".toList ++ inst.databaseFor databaseOverride ++ ";".toList ++
    "UID=".toList ++ creds.username ++ ";PWD=\x7b".toList ++ creds.password ++ "\x7d;".toList ++
    "Encrypt=no;TrustServerCertificate=yes;".toList

/-- The attributes that the text is meant to say, as it writes them. -/
def connectionAttributes (getenv : Getenv) (resolver : Str → Credentials) (inst : SqlInstanceConfig) (database : Str) :
    List Attribute :=
  let creds := resolver inst.authSecretRef
  [⟨"DRIVER".toList, odbcDriver getenv, true⟩, ⟨"SERVER".toList, inst.host ++ ",".toList ++ intText inst.port, false⟩,
    ⟨"DATABASE".toList, database, false⟩, ⟨"UID".toList, creds.username, false⟩, ⟨"PWD".toList, creds.password, true⟩,
    ⟨"Encrypt".toList, "no".toList, false⟩, ⟨"TrustServerCertificate".toList, "yes".toList, false⟩]

variable (getenv : Getenv) (resolver : Str → Credentials) (inst : SqlInstanceConfig)

theorem connectionString_eq (databaseOverride : Option Str) :
    connectionString getenv resolver inst databaseOverride =
      (connectionAttributes getenv resolver inst (inst.databaseFor databaseOverride)).flatMap Attribute.text := by
  have hdriver : "DRIVER=\x7b".toList = "DRIVER".toList ++ ['=', '{'] := rfl
  have hserver : "SERVER=".toList = "SERVER".toList ++ ['='] := rfl
  have hdatabase : "DATABASE=".toList = "DATABASE".toList ++ ['='] := rfl
  have huid : "UID=".toList = "UID".toList ++ ['='] := rfl
  have hpwd : ";PWD=\x7b".toList = ';' :: ("PWD".toList ++ ['=', '{']) := rfl
  have hend : "Encrypt=no;TrustServerCertificate=yes;".toList = "Encrypt".toList ++ '=' :: ("no".toList ++ ';' ::
      ("TrustServerCertificate".toList ++ '=' :: ("yes".toList ++ [';']))) := rfl
  have hclose : "\x7d;".toList = ['}', ';'] := rfl
  have hsemi : ";".toList = [';'] := rfl
  unfold connectionString connectionAttributes
  rw [hdriver, hserver, hdatabase, huid, hpwd, hclose, hsemi, hend]
  generalize "DRIVER".toList = driver, "SERVER".toList = server, "DATABASE".toList = database, "UID".toList = uid,
    "PWD".toList = pwd, "Encrypt".toList = encrypt, "TrustServerCertificate".toList = trust
  simp [Attribute.text]

theorem isKey_connectionAttributes {a : Attribute} {database : Str}
    (h : a ∈ connectionAttributes getenv resolver inst database) : IsKey a.key := by
  have hkeys : ∀ k ∈ ["DRIVER".toList, "SERVER".toList, "DATABASE".toList, "UID".toList, "PWD".toList,
      "Encrypt".toList, "TrustServerCertificate".toList], IsKey k := by decide
  exact hkeys a.key (List.mem_map_of_mem h)

theorem plain_server_iff (host : Str) (port : ℤ) : PlainValue (host ++ ",".toList ++ intText port) ↔ PlainValue host := by
  have hport : ';' ∉ intText port := notMem_intText (by decide) (by decide) port
  cases host with
  | nil => simp [PlainValue, hport]
  | cons c host => simp [PlainValue, hport]

/-- Every username and password stand for themselves, as do the other values. -/
theorem attributes_connectionString (databaseOverride : Option Str) :
    attributes (connectionString getenv resolver inst databaseOverride) =
        some ((connectionAttributes getenv resolver inst (inst.databaseFor databaseOverride)).map
          (fun a ↦ (a.key, a.value))) ↔
      '}' ∉ odbcDriver getenv ∧ PlainValue inst.host ∧ PlainValue (inst.databaseFor databaseOverride) ∧
        PlainValue (resolver inst.authSecretRef).username ∧ '}' ∉ (resolver inst.authSecretRef).password := by
  rw [connectionString_eq, attributes_text (fun a ↦ isKey_connectionAttributes getenv resolver inst),
    connectionAttributes]
  have hno : PlainValue "no".toList := by decide
  have hyes : PlainValue "yes".toList := by decide
  simp only [List.forall_mem_cons, Attribute.Faithful, if_true, Bool.false_eq_true, if_false, plain_server_iff, hno,
    hyes, List.not_mem_nil, false_implies, implies_true, and_true]

section RoundTrip

variable [UnicodeData]

/-- For an accepted database name. The three values that come from outside the configuration
are the name, the username and the password; the other two conditions are about the
configured driver and host. -/
theorem connectionString_roundTrip_iff {given name : Str} (h : validateDatabaseName given = .ok name) :
    attributes (connectionString getenv resolver inst (some name)) =
        some ((connectionAttributes getenv resolver inst name).map (fun a ↦ (a.key, a.value))) ↔
      (name.head? ≠ some '{' ∧ PlainValue (resolver inst.authSecretRef).username ∧
        '}' ∉ (resolver inst.authSecretRef).password) ∧ '}' ∉ odbcDriver getenv ∧ PlainValue inst.host := by
  obtain ⟨-, hne, hsemi, -⟩ := validateName_eq_ok.mp h
  have hdb : inst.databaseFor (some name) = name := if_neg hne
  have hname : PlainValue name ↔ name.head? ≠ some '{' := and_iff_right hsemi
  have hparse := attributes_connectionString getenv resolver inst (some name)
  rw [hdb, hname] at hparse
  rw [hparse]
  constructor
  · intro ⟨hdriver, hhost, hd, hu, hp⟩
    exact ⟨⟨hd, hu, hp⟩, hdriver, hhost⟩
  · intro ⟨⟨hd, hu, hp⟩, hdriver, hhost⟩
    exact ⟨hdriver, hhost, hd, hu, hp⟩

end RoundTrip

def localInstance : SqlInstanceConfig :=
  { id := "primary".toList, host := "localhost".toList, database := "master".toList,
    authSecretRef := "secret/sql/primary".toList }

theorem connectionString_roundTrip_defaults :
    let _ := asciiData
    attributes (connectionString (fun _ ↦ none) (secretResolver (fun _ ↦ none)) localInstance (some "Sales".toList)) =
      some ((connectionAttributes (fun _ ↦ none) (secretResolver (fun _ ↦ none)) localInstance "Sales".toList).map
        (fun a ↦ (a.key, a.value))) := by
  have hok := @connectionString_roundTrip_iff (fun _ ↦ none) (@secretResolver asciiData (fun _ ↦ none)) localInstance
    asciiData "Sales".toList "Sales".toList (by decide +kernel)
  exact hok.mpr (by decide +kernel)

def accountEnv (username password : Str) (name : Str) : Option Str :=
  if name = "SECRET_SQL_PRIMARY_USERNAME".toList then some username
  else if name = "SECRET_SQL_PRIMARY_PASSWORD".toList then some password
  else none

/-- A username with a semicolon adds an attribute of its own, and a password with a closing
brace cannot be read at all. -/
theorem connectionString_injects :
    let _ := asciiData
    let injecting := accountEnv "app;DATABASE=master".toList "secret".toList
    let closing := accountEnv "app".toList "se\x7dcret".toList
    validateDatabaseName "Sales".toList = .ok "Sales".toList ∧
    attributes (connectionString injecting (secretResolver injecting) localInstance (some "Sales".toList)) ≠
      some ((connectionAttributes injecting (secretResolver injecting) localInstance "Sales".toList).map
        (fun a ↦ (a.key, a.value))) ∧
    ((attributes (connectionString injecting (secretResolver injecting) localInstance (some "Sales".toList))).map
        (fun l ↦ l.filter (fun a ↦ a.1 = "DATABASE".toList || a.1 = "UID".toList))) =
      some [("DATABASE".toList, "Sales".toList), ("UID".toList, "app".toList), ("DATABASE".toList, "master".toList)] ∧
    attributes (connectionString closing (secretResolver closing) localInstance (some "Sales".toList)) = none := by
  decide +kernel

end McpSqlServer.ConnectionManager
