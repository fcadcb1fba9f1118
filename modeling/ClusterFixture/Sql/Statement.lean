/-
The statements that fixture operations send.

Names of tables stand in a statement exactly as a scenario spells them. A value that is compared
with a column of the catalog, or that names a file, is written as a literal.
-/

import ClusterFixture.Number.Integer
import ClusterFixture.Sql.Quote
import ClusterFixture.Sql.Storage
import ClusterFixture.Text.Search

set_option autoImplicit false

namespace ClusterFixture.Sql.Statement

open ClusterFixture.Number (decimal)

/-! ## Constants of the fixture tables -/

/-- The first day of the partitioned fixture table. -/
def partitionStart : String := "2010-01-01"

/-- The day after the last one of the partitioned fixture table. -/
def partitionEnd : String := "2013-01-01"

/-- The length of one of its partitions. -/
def partitionInterval : String := "1 year"

/-- The upper end of the series that fills a partitioned table. -/
def defaultRowCount : Nat := 1094

/-- The rows of a fixture table of integers. -/
def integerTableRows : Nat := 1000

/-- The columns of every partitioned fixture table. -/
def partitionColumns : String := "Column1 int, Column2 varchar(20), Column3 date"

/-! ## The catalog -/

def listDatabases : String := "select datname from pg_database"

def schemaExists (schema : String) : String :=
  render [.text "select * from pg_namespace where nspname = ", .value schema]

def userTables : String :=
  "select n.nspname as schemaname, c.relname as tablename from pg_class c "
    ++ "left join pg_namespace n on n.oid = c.relnamespace "
    ++ "left join pg_tablespace t on t.oid = c.reltablespace "
    ++ "where c.relkind = 'r'::\"char\" and c.oid > 16384 "
    ++ "and (c.relnamespace > 16384 or n.nspname = 'public') "
    ++ "and n.nspname not like 'pg_temp_%'"

def tableStorage (table : String) : String :=
  render [.text "select oid::regclass, relkind, relstorage, reloptions from pg_class where oid = ",
    .value table, .text "::regclass"]

def languageCount (language : String) : String :=
  render [.text "select count(*) from pg_language where lanname = ", .value language]

def constraintCount (constraint : String) : String :=
  render [.text "select count(*) from pg_constraint where conname = ", .value constraint]

def partitionTables (table : String) (level : Nat) : String :=
  render [.text "select partitiontablename from pg_partitions where tablename = ", .value table,
    .text " and partitionlevel = ", .number level]

def partitionNames (schema table : String) (level position : Nat) : String :=
  render [.text ("select partitionschemaname || '.' || partitiontablename from pg_partitions "
      ++ "where schemaname = "),
    .value schema, .text " and tablename = ", .value table,
    .text " and partitionlevel = ", .number level,
    .text " and partitionposition = ", .number position]

def segmentHosts : String :=
  "select distinct(hostname) from gp_segment_configuration where content != -1"

def masterHost : String :=
  "select distinct hostname from gp_segment_configuration where content = -1 and role = 'p'"

def primaryHosts : String :=
  "select distinct hostname from gp_segment_configuration where role = 'p'"

def hostsAndDirectories : String :=
  "select hostname, fselocation from gp_segment_configuration, pg_filespace_entry "
    ++ "where fsedbid = dbid and role = 'p'"

def directoriesOfHost (host : String) : String :=
  render [.text ("select f.fselocation from pg_filespace_entry f inner join "
      ++ "gp_segment_configuration g on f.fsedbid = g.dbid and g.role = 'p' and g.hostname = "),
    .value host]

def tableOid (schema table : String) : String :=
  render [.text ("select c.oid from pg_class c, pg_namespace n "
      ++ "where c.relnamespace = n.oid and c.relname = "),
    .value table, .text " and n.nspname = ", .value schema]

def rowCount (table : String) : String := "select count(*) from " ++ table

/-- The leaf tables with append-only storage, each with the relation that keeps its tuple counts.
Inner levels of partitions and external tables are left out. -/
def appendOnlyDataTables : String := String.intercalate "\n" [
  "SELECT all_data_tables.oid, all_data_tables.schemaname, all_data_tables.tablename, "
    ++ "outer_pg_class.relname AS tupletable FROM (",
  "  SELECT alltables.oid, alltables.schemaname, alltables.tablename FROM",
  "    (SELECT c.oid, n.nspname AS schemaname, c.relname AS tablename FROM pg_class c, "
    ++ "pg_namespace n",
  "     WHERE n.oid = c.relnamespace) AS alltables,",
  "    (SELECT n.nspname AS schemaname, c.relname AS tablename",
  "     FROM pg_class c LEFT JOIN pg_namespace n ON n.oid = c.relnamespace",
  "     LEFT JOIN pg_tablespace t ON t.oid = c.reltablespace",
  "     WHERE c.relkind = 'r'::\"char\" AND c.oid > 16384 AND (c.relnamespace > 16384 OR "
    ++ "n.nspname = 'public')",
  "     EXCEPT",
  "     ((SELECT x.schemaname, x.partitiontablename FROM",
  "       (SELECT DISTINCT schemaname, tablename, partitiontablename, partitionlevel FROM "
    ++ "pg_partitions) AS x,",
  "       (SELECT schemaname, tablename maxtable, max(partitionlevel) maxlevel FROM "
    ++ "pg_partitions GROUP BY (tablename, schemaname)) AS y",
  "       WHERE x.schemaname = y.schemaname AND x.tablename = y.maxtable AND "
    ++ "x.partitionlevel != y.maxlevel)",
  "      UNION (SELECT DISTINCT schemaname, tablename FROM pg_partitions))) AS datatables",
  "  WHERE alltables.schemaname = datatables.schemaname AND alltables.tablename = "
    ++ "datatables.tablename",
  "    AND alltables.oid NOT IN (SELECT reloid FROM pg_exttable)",
  ") AS all_data_tables, pg_appendonly, pg_class outer_pg_class",
  "WHERE all_data_tables.oid = pg_appendonly.relid",
  "  AND outer_pg_class.oid = pg_appendonly.segrelid"]

def appendOnlyTables (layout : AppendOnlyLayout) : String :=
  let flag := match layout with
    | .rows => "f"
    | .columns => "t"
  appendOnlyDataTables ++ " AND pg_appendonly.columnstore = '" ++ flag ++ "'"

/-- All segments in the order of their numbers. -/
def segmentConfiguration : String :=
  "select dbid, content, role, preferred_role, mode, status, port, hostname, address "
    ++ "from gp_segment_configuration order by dbid"

def changeTrackingCount : String :=
  "select count(*) from gp_segment_configuration where mode = 'c'"

def notInSyncOrDownCount : String :=
  "select count(*) from gp_segment_configuration where mode <> 's' or status <> 'u'"

def resyncCount : String := "select count(*) from gp_segment_configuration where mode = 'r'"

def notInSyncCount : String := "select count(*) from gp_segment_configuration where mode <> 's'"

/-- The filespace locations of the master, or of the segments, with one preferred role. -/
def filespaceEntries (role : Char) (master : Bool) : String :=
  "select hostname, dbid, fselocation from pg_filespace_entry, gp_segment_configuration "
    ++ "where dbid = fsedbid and preferred_role = '" ++ String.singleton role ++ "' and "
    ++ (if master then "content = -1" else "content > -1")

/-! ## Definitions -/

def createSchema (schema : String) : String := "create schema " ++ schema

def dropSchema (schema : String) : String := "drop schema " ++ schema ++ " cascade"

def dropTable (table : String) : String := "drop table " ++ table

def dropExternalTable (table : String) : String := "drop external table " ++ table

def createIntegerTable (table : String) (storage : Storage) : String :=
  let options := match storage with
    | .heap => ""
    | .row => " WITH(APPENDONLY=TRUE)"
    | .column => " WITH(APPENDONLY=TRUE, orientation=column)"
  "create table " ++ table ++ options ++ " as select generate_series(1, "
    ++ integerTableRows.repr ++ ") as c1"

/-- The fixture table, partitioned by list and by range where asked for. Compression belongs to
append-only storage and stands beside its orientation. -/
def createPartition (table : String) (storage : Storage) (compression : Option String)
    (partitioned : Bool) : String :=
  let options := match storage.orientation? with
    | none => ""
    | some orientation =>
      " WITH(appendonly = true, orientation = " ++ orientation
        ++ (match compression with
          | some c => ", compresstype = " ++ c
          | none => "")
        ++ ") "
  let parts := if partitioned then
      " Distributed Randomly Partition by list(Column2) "
        ++ "Subpartition by range(Column3) Subpartition Template "
        ++ "(start (date '" ++ partitionStart ++ "') end (date '" ++ partitionEnd
        ++ "') every (interval '" ++ partitionInterval ++ "')) "
        ++ "(Partition p1 values('backup'), Partition p2 values('restore'))"
    else ""
  "Create table " ++ table ++ "(" ++ partitionColumns ++ ")" ++ options ++ parts ++ ";"

/-- Inserts one row more than `rowcount` for each of the two list values. -/
def populatePartition (table start : String) (offset rowcount : Nat) : String :=
  Text.joinWith "; " (["backup", "restore"].map fun value =>
    "insert into " ++ table ++ " select i+" ++ offset.repr ++ ", '" ++ value ++ "', i + date '"
      ++ start ++ "' from generate_series(0," ++ rowcount.repr ++ ") as i")

def createMixedStoragePartition (table : String) : String :=
  "Create table " ++ table ++ " (" ++ partitionColumns ++ ") Distributed randomly "
    ++ "Partition by list(Column2) Subpartition by range(Column3) Subpartition Template ( "
    ++ "subpartition s_1 start(date '2010-01-01') end(date '2011-01-01') "
    ++ "with (appendonly=true, orientation=column, compresstype=quicklz, compresslevel=1), "
    ++ "subpartition s_2 start(date '2011-01-01') end(date '2012-01-01') "
    ++ "with (appendonly=true, orientation=row, compresstype=zlib, compresslevel=1), "
    ++ "subpartition s_3 start(date '2012-01-01') end(date '2013-01-01') "
    ++ "with (appendonly=true, orientation=column), "
    ++ "subpartition s_4 start(date '2013-01-01') end(date '2014-01-01') "
    ++ "with (appendonly=true, orientation=row), "
    ++ "subpartition s_5 start(date '2014-01-01') end(date '2015-01-01') ) "
    ++ "(partition p1 values('backup'), partition p2 values('restore'))"

/-- A table partitioned by range, one partition of which is exchanged for an external table. -/
def createExternalPartition (table master : String) (port : Nat) (file : String) : String :=
  Text.joinWith "; " [
    "Create table " ++ table ++ " (" ++ partitionColumns ++ ") Distributed randomly "
      ++ "Partition by range(Column3) ( "
      ++ "partition p_1 start(date '2010-01-01') end(date '2011-01-01') "
      ++ "with (appendonly=true, orientation=column, compresstype=quicklz, compresslevel=1), "
      ++ "partition p_2 start(date '2011-01-01') end(date '2012-01-01') "
      ++ "with (appendonly=true, orientation=row, compresstype=zlib, compresslevel=1), "
      ++ "partition s_3 start(date '2012-01-01') end(date '2013-01-01') "
      ++ "with (appendonly=true, orientation=column), "
      ++ "partition s_4 start(date '2013-01-01') end(date '2014-01-01') "
      ++ "with (appendonly=true, orientation=row), "
      ++ "partition s_5 start(date '2014-01-01') end(date '2015-01-01') )",
    "Create readable external table " ++ table ++ "_ret (" ++ partitionColumns ++ ") "
      ++ "location ('gpfdist://" ++ master ++ ":" ++ port.repr ++ "/" ++ file ++ "') "
      ++ "format 'csv' encoding 'utf-8' log errors segment reject limit 1000",
    "Alter table " ++ table ++ " exchange partition p_2 with table " ++ table
      ++ "_ret without validation",
    "Drop table " ++ table ++ "_ret"]

def addPartition (number : Nat) (table : String) : String :=
  "alter table " ++ table ++ " add default partition p" ++ number.repr ++ "; "
    ++ "insert into " ++ table ++ " select i+" ++ number.repr ++ ", 'update', i + date '"
    ++ partitionStart ++ "' from generate_series(0," ++ defaultRowCount.repr ++ ") as i"

def dropPartition (number : Nat) (table : String) : String :=
  "alter table " ++ table ++ " drop partition p" ++ number.repr

/-- Two levels of 74 ranges each, or one level of one range less than a number. -/
def createManyPartitions (storage : Storage) (table : String) (count : Option Nat) : String :=
  let options := match storage with
    | .heap => ""
    | .row => " with(appendonly=true)"
    | .column => " with(appendonly=true, orientation=column)"
  let start := "create table " ++ table ++ " (column1 int, column2 int)" ++ options
    ++ " partition by range(column1) "
  match count with
  | none => start ++ "subpartition by range(column2) subpartition "
      ++ "template(start(1) end(75) every(1)) (start(1) end(75) every(1))"
  | some n => start ++ "(start(1) end(" ++ n.repr ++ ") every(1))"

def relationCount (relation : String) : String :=
  render [.text "select count(*) from pg_class where relname = ", .value relation]

def createIndexes (table index : String) : String :=
  "create index btree_" ++ index ++ " on " ++ table ++ " using btree(column1); "
    ++ "create index bitmap_" ++ index ++ " on " ++ table ++ " using bitmap(column3)"

def indexRows (table : String) : String :=
  render [.text ("select count(indexrelid::regclass) from pg_index, pg_class "
      ++ "where indrelid = "),
    .value table, .text "::regclass group by indexrelid"]

def createFakeSegmentTable (table : String) : String :=
  "CREATE TABLE " ++ table ++ "(segno int, eof double precision, tupcount double precision, "
    ++ "modcount bigint, varblockcount double precision, eofuncompressed double precision)"

/-! ## Data -/

def truncate (table : String) : String := "TRUNCATE " ++ table

def insertNumbers (table : String) (low high : Int) : String :=
  "insert into " ++ table ++ " select generate_series(" ++ decimal low ++ ", " ++ decimal high
    ++ ")"

def insertRow (table values : String) : String :=
  "INSERT INTO " ++ table ++ " values(" ++ values ++ ")"

def deleteRows (table column value : String) : String :=
  "DELETE FROM " ++ table ++ " WHERE " ++ column ++ " = " ++ value

def analyze : String := "analyze"

/-! ## Comparing a backup with what was restored -/

/-- The numbers of all columns of a table and of one more, as a list with commas. -/
def columnOrder (table : String) : String :=
  let name := Text.trim table
  render [.text ("select string_agg(a, ',') from ( "
      ++ "select generate_series(1, c.relnatts + 1)::text as a "
      ++ "from pg_class as c inner join pg_namespace as n on c.relnamespace = n.oid "
      ++ "where (n.nspname || '.' || c.relname = "),
    .value name, .text ") or c.relname = ", .value name, .text " ) as q"]

def copyTable (table order path : String) : String :=
  render [.text ("COPY (select gp_segment_id, * from " ++ Text.trim table ++ " order by " ++ order
      ++ ") TO "),
    .value path]

def copyDistributionPolicy (path : String) : String :=
  render [.text ("COPY (select c.relname as tablename, p.attrnums as distribution_policy "
      ++ "from pg_class c inner join gp_distribution_policy p "
      ++ "on (c.relfilenode = p.localoid) and c.relstorage != 'x' order by c.relname) TO "),
    .value path]

def segmentRowCounts (table : String) : String :=
  render [.text "select gp_segment_id, count(*) from gp_dist_random(", .value table,
    .text ") group by gp_segment_id"]

def relationStorage (table : String) : String :=
  render [.text "select oid::regclass, relstorage from pg_class where oid = ", .value table,
    .text "::regclass"]

def tupleSum (tupleTable : String) : String :=
  "select to_char(sum(tupcount::bigint), '999999999999999999999') from pg_aoseg."
    ++ identifier (Text.trim tupleTable)

def tupleTableName (table : String) : String :=
  render [.text ("select relname from pg_class where oid in (select segrelid from pg_appendonly "
      ++ "where relid in (select oid from pg_class where relname = "),
    .value table, .text "))"]

def tupleCount (tupleTable : String) : String :=
  "select tupcount from pg_aoseg." ++ identifier (Text.trim tupleTable)

def lastTruncate (oid : Nat) : String :=
  "SELECT * FROM pg_stat_last_operation WHERE objid = " ++ oid.repr
    ++ " and staactionname = 'TRUNCATE'"

def lastTruncateCount (oid : Nat) : String :=
  "SELECT count(*) FROM pg_stat_last_operation WHERE objid = " ++ oid.repr
    ++ " and staactionname = 'TRUNCATE'"

def estimatedRows (relation : String) : String :=
  render [.text "SELECT reltuples FROM pg_class WHERE relname = ", .value relation]

end ClusterFixture.Sql.Statement
