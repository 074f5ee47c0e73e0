import McpSqlServer.WriteGuard.Procedures

namespace McpSqlServer

open Library.Text Library.Python Library.Sql Library.Sql.ObjectName

section UnicodeData

variable [UnicodeData]

section Pieces

variable {ds text text' w : Str} {m n : ObjectName}

end Pieces

end UnicodeData

end McpSqlServer
