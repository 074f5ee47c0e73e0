import McpSqlServer.Library.Following
import McpSqlServer.Library.Python.Dict
import McpSqlServer.Tools.DashboardMarkup
import Mathlib.Algebra.GroupWithZero.Nat

namespace McpSqlServer.DashboardPayloads

open Library Library.Text Library.Python

variable (B : Builtins)

section Rendered

variable [UnicodeData]

end Rendered

section Depth

variable [UnicodeData] {blocking : List (ℤ × ℤ)} {chains : List Row} {a current : ℤ} {seen : List ℤ} {m k : ℕ}

end Depth

section Groups

variable {chains : List Row} {key : Str} {group : Str × List Row}

end Groups

section Section

variable [UnicodeData] {chains rows tasks : List Row}

end Section

end McpSqlServer.DashboardPayloads
