import SplitTest.Layout.Token

/-! The reserved words of SQL and of its flavours, with the kind of each. -/

namespace SplitTest.Layout

/-- Words that start a statement on rows. -/
def rowStatements : List String :=
  ["SELECT", "INSERT", "DELETE", "UPDATE", "UPSERT", "REPLACE", "MERGE", "COMMIT", "ROLLBACK",
    "START"]

/-- Words that start a statement on tables. -/
def tableStatements : List String :=
  ["DROP", "CREATE", "ALTER", "TRUNCATE"]

/-- The words of lines, with a space between two words. -/
def spaced (lines : List String) : List String :=
  lines.flatMap (·.splitOn " ")

def typeNames : List String :=
  spaced ["ARRAY BIGINT BIGNUMERIC BINARY BIT BLOB BOOLEAN CHAR DATE DEC DECIMAL FILE_TYPE FLOAT",
    "INT INT8 INTEGER INTERVAL LONG NATURALN NVARCHAR NUMBER NUMERIC PLS_INTEGER POSITIVE",
    "POSITIVEN REAL ROWID ROWLABEL ROWNUM SERIAL SERIAL8 SIGNED SIGNTYPE SIMPLE_DOUBLE",
    "SIMPLE_FLOAT SIMPLE_INTEGER SMALLINT SYS_REFCURSOR SYSDATE TEXT TINYINT UNSIGNED UROWID",
    "UTL_FILE VARCHAR VARCHAR2 VARIANT VARYING"]

/-- Words common to all flavours. -/
def commonWords : List String :=
  spaced ["WHERE FROM INNER JOIN STRAIGHT_JOIN AND OR LIKE ON IN SET BY GROUP ORDER LEFT OUTER",
    "FULL IF END THEN LOOP AS ELSE FOR WHILE CASE WHEN MIN MAX DISTINCT"]

/-- Words of single flavours. -/
def flavourWords : List String :=
  spaced ["ARCHIVE ARCHIVELOG BACKUP BECOME BLOCK BODY CANCEL CHANGE COMPILE CONTENTS CONTROLFILE",
    "DATAFILE DBA DISMOUNT DOUBLE DUMP ELSIF EVENTS EXCEPTIONS EXPLAIN EXTENT EXTERNALLY",
    "FLUSH FREELIST FREELISTS INDICATOR INITRANS INSTANCE LAYER LINK LISTS LOGFILE MANAGE",
    "MANUAL MAXDATAFILES MAXINSTANCES MAXLOGFILES MAXLOGHISTORY MAXLOGMEMBERS MAXTRANS",
    "MINEXTENTS MODULE MOUNT NOARCHIVELOG NOCACHE NOCYCLE NOMAXVALUE NOMINVALUE NOORDER",
    "NORESETLOGS NORMAL NOSORT OPTIMAL OWN PACKAGE PARALLEL PCTINCREASE PCTUSED PLAN PRIVATE",
    "PROFILE QUOTA RECOVER RESETLOGS RESTRICTED REUSE ROLES SAVEPOINT SCN SECTION SEGMENT",
    "SHARED SNAPSHOT SORT STATEMENT_ID STOP SWITCH TABLES TABLESPACE THREAD TIME TRACING",
    "TRANSACTION TRIGGERS UNLIMITED UNLOCK ROW CONFLICT WINDOW PARTITION OVER PERFORM NOTICE",
    "PLPGSQL INHERIT INDEXES ON_ERROR_STOP EXTENSION BYTEA BIGSERIAL BOX CHARACTER CIDR",
    "CIRCLE INET JSON JSONB LINE LSEG MACADDR MONEY PATH PG_LSN POINT POLYGON SMALLSERIAL",
    "TSQUERY TSVECTOR TXID_SNAPSHOT UUID XML EXPLODE DIRECTORY DISTRIBUTE INCLUDE LOCATE",
    "OVERWRITE POSEXPLODE ARRAY_CONTAINS CMP COLLECT_LIST CONCAT CONDITION DATE_ADD DATE_SUB",
    "DECODE DBMS_OUTPUT ELEMENTS EXCHANGE EXTENDED FLOOR FOLLOWING FROM_UNIXTIME FTP HOUR",
    "INLINE INSTR LEN MAP MAXELEMENT MAXINDEX MAX_PART_DATE MAX_PART_INT MAX_PART_STRING",
    "MINELEMENT MININDEX MIN_PART_DATE MIN_PART_INT MIN_PART_STRING NOW NVL NVL2",
    "PARSE_URL_TUPLE PART_LOC PART_COUNT PART_COUNT_BY PRINT PUT_LINE RANGE REDUCE",
    "REGEXP_REPLACE RESIGNAL RTRIM SIGN SIGNAL SIN SPLIT SQRT STACK STR STRING STRUCT SUBSTR",
    "SUMMARY TBLPROPERTIES TIMESTAMP TIMESTAMP_ISO TO_CHAR TO_DATE TO_TIMESTAMP TRUNC",
    "UNBOUNDED UNIQUEJOIN UNIX_TIMESTAMP UTC_TIMESTAMP VIEWS EXIT BREAK LEAVE DISTINCTROW",
    "ACCOUNT GSCLUSTER ISSUE ORGANIZATION PIVOT QUALIFY REGEXP RLIKE SAMPLE TRY_CAST UNPIVOT",
    "ASSERT_ROWS_MODIFIED DEFINE ENUM HASH LOOKUP PRECEDING PROTO RESPECT TABLESAMPLE"]

/-- The other reserved words, the first half of the alphabet. -/
def wordsAToL : List String :=
  spaced ["ABORT ABS ABSOLUTE ACCESS ADA ADD ADMIN AFTER AGGREGATE ALIAS ALL ALLOCATE ANALYSE",
    "ANALYZE ANY ARRAYLEN ARE ASENSITIVE ASSERTION ASSIGNMENT ASYMMETRIC AT ATOMIC AUDIT",
    "AUTHORIZATION AUTO_INCREMENT AVG BACKWARD BEFORE BEGIN BETWEEN BITVAR BIT_LENGTH BOTH",
    "BREADTH CACHE CALL CALLED CARDINALITY CASCADE CASCADED CAST CATALOG CATALOG_NAME CHAIN",
    "CHARACTERISTICS CHARACTER_LENGTH CHARACTER_SET_CATALOG CHARACTER_SET_NAME",
    "CHARACTER_SET_SCHEMA CHAR_LENGTH CHARSET CHECK CHECKED CHECKPOINT CLASS CLASS_ORIGIN",
    "CLOB CLOSE CLUSTER COALESCE COBOL COLLATE COLLATION COLLATION_CATALOG COLLATION_NAME",
    "COLLATION_SCHEMA COLLECT COLUMN COLUMN_NAME COMPRESS COMMAND_FUNCTION",
    "COMMAND_FUNCTION_CODE COMMENT COMMITTED COMPLETION CONCURRENTLY CONDITION_NUMBER CONNECT",
    "CONNECTION CONNECTION_NAME CONSTRAINT CONSTRAINTS CONSTRAINT_CATALOG CONSTRAINT_NAME",
    "CONSTRAINT_SCHEMA CONSTRUCTOR CONTAINS CONTINUE CONVERSION CONVERT COPY CORRESPONDING",
    "COUNT CREATEDB CREATEUSER CROSS CUBE CURRENT CURRENT_DATE CURRENT_PATH CURRENT_ROLE",
    "CURRENT_TIME CURRENT_TIMESTAMP CURRENT_USER CURSOR CURSOR_NAME CYCLE DATA DATABASE",
    "DATETIME_INTERVAL_CODE DATETIME_INTERVAL_PRECISION DAY DEALLOCATE DECLARE DEFAULT",
    "DEFAULTS DEFERRABLE DEFERRED DEFINED DEFINER DELIMITER DELIMITERS DEREF DESCRIBE",
    "DESCRIPTOR DESTROY DESTRUCTOR DETERMINISTIC DIAGNOSTICS DICTIONARY DISABLE DISCONNECT",
    "DISPATCH DO DOMAIN DYNAMIC DYNAMIC_FUNCTION DYNAMIC_FUNCTION_CODE EACH ENABLE ENCODING",
    "ENCRYPTED ENGINE EQUALS ESCAPE EVERY EXCEPT EXCEPTION EXCLUDING EXCLUSIVE EXECUTE",
    "EXISTING EXISTS EXTERNAL EXTRACT FALSE FETCH FILE FINAL FIRST FORCE FOREACH FOREIGN",
    "FORTRAN FORWARD FOUND FREE FREEZE FUNCTION GENERAL GENERATED GET GLOBAL GO GOTO GRANTED",
    "GROUPING HAVING HIERARCHY HOLD HOST IDENTIFIED IDENTITY IGNORE ILIKE IMMEDIATE IMMUTABLE",
    "IMPLEMENTATION IMPLICIT INCLUDING INCREMENT INDEX INDITCATOR INFIX INHERITS INITIAL",
    "INITIALIZE INITIALLY INOUT INPUT INSENSITIVE INSTANTIABLE INSTEAD INTERSECT INTO INVOKER",
    "IS ISNULL ISOLATION ITERATE KEY KEY_MEMBER KEY_TYPE LANCOMPILER LANGUAGE LARGE LAST",
    "LATERAL LEADING LENGTH LESS LEVEL LIMIT LISTEN LOAD LOCAL LOCALTIME LOCALTIMESTAMP",
    "LOCATION LOCATOR LOCK LOWER"]

/-- The other reserved words, the second half of the alphabet. -/
def wordsMToZ : List String :=
  spaced ["MATCH MAXEXTENTS MAXVALUE MESSAGE_LENGTH MESSAGE_OCTET_LENGTH MESSAGE_TEXT",
    "METHOD MINUTE",
    "MINUS MINVALUE MOD MODE MODIFIES MODIFY MONTH MORE MOVE MUMPS NAMES NATIONAL NATURAL",
    "NCHAR NCLOB NEW NEXT NO NOAUDIT NOCOMPRESS NOCREATEDB NOCREATEUSER NONE NOT NOTFOUND",
    "NOTHING NOTIFY NOTNULL NOWAIT NULL NULLABLE NULLIF OBJECT OCTET_LENGTH OF OFF OFFLINE",
    "OFFSET OIDS OLD ONLINE ONLY OPEN OPERATION OPERATOR OPTION OPTIONS ORDINALITY OUT OUTPUT",
    "OVERLAPS OVERLAY OVERRIDING OWNER QUARTER PAD PARAMETER PARAMETERS PARAMETER_MODE",
    "PARAMETER_NAME PARAMETER_ORDINAL_POSITION PARAMETER_SPECIFIC_CATALOG",
    "PARAMETER_SPECIFIC_NAME PARAMETER_SPECIFIC_SCHEMA PARTIAL PASCAL PCTFREE PENDANT PLACING",
    "PLI POSITION POSTFIX PRECISION PREFIX PREORDER PREPARE PRESERVE PRIMARY PRIOR PRIVILEGES",
    "PROCEDURAL PROCEDURE PUBLIC RAISE RAW READ READS RECHECK RECURSIVE REF REFERENCES",
    "REFERENCING REINDEX RELATIVE RENAME REPEATABLE RESET RESOURCE RESTART RESTRICT RESULT",
    "RETURN RETURNED_LENGTH RETURNED_OCTET_LENGTH RETURNED_SQLSTATE RETURNING RETURNS RIGHT",
    "ROLE ROLLUP ROUTINE ROUTINE_CATALOG ROUTINE_NAME ROUTINE_SCHEMA ROWS ROW_COUNT RULE",
    "SAVE_POINT SCALE SCHEMA SCHEMA_NAME SCOPE SCROLL SEARCH SECOND SECURITY SELF SENSITIVE",
    "SEQUENCE SERIALIZABLE SERVER_NAME SESSION SESSION_USER SETOF SETS SHARE SHOW SIMILAR",
    "SIMPLE SIZE SOME SOURCE SPACE SPECIFIC SPECIFICTYPE SPECIFIC_NAME SQL SQLBUF SQLCODE",
    "SQLERROR SQLEXCEPTION SQLSTATE SQLWARNING STABLE STATEMENT STATIC STATISTICS STDIN",
    "STDOUT STORAGE STRICT STRUCTURE STYPE SUBCLASS_ORIGIN SUBLIST SUBSTRING SUCCESSFUL SUM",
    "SYMMETRIC SYNONYM SYSID SYSTEM SYSTEM_USER TABLE TABLE_NAME TEMP TEMPLATE TEMPORARY",
    "TERMINATE THAN TIMEZONE_HOUR TIMEZONE_MINUTE TO TOAST TRAILING TRANSATION",
    "TRANSACTIONS_COMMITTED TRANSACTIONS_ROLLED_BACK TRANSATION_ACTIVE TRANSFORM TRANSFORMS",
    "TRANSLATE TRANSLATION TREAT TRIGGER TRIGGER_CATALOG TRIGGER_NAME TRIGGER_SCHEMA TRIM",
    "TRUE TRUSTED TYPE UID UNCOMMITTED UNDER UNENCRYPTED UNION UNIQUE UNKNOWN UNLISTEN",
    "UNNAMED UNNEST UNTIL UPPER USAGE USE USER USER_DEFINED_TYPE_CATALOG",
    "USER_DEFINED_TYPE_NAME USER_DEFINED_TYPE_SCHEMA USING VACUUM VALID VALIDATE VALIDATOR",
    "VALUES VARIABLE VERBOSE VERSION VIEW VOLATILE WEEK WHENEVER WITHOUT WORK WRITE YEAR ZONE"]

/-- Plain reserved words. -/
def plainWords : List String :=
  commonWords ++ flavourWords ++ wordsAToL ++ wordsMToZ

/-- The kind of a word, in whatever case it is written; a word that is not reserved is a name. -/
def wordKind (s : String) : Kind :=
  let word := Text.upper s
  if rowStatements.contains word then .rowStatement
  else if tableStatements.contains word then .tableStatement
  else if word == "WITH" then .withWord
  else if word == "GRANT" || word == "REVOKE" then .accessWord
  else if word == "DIV" then .operator
  else if typeNames.contains word then .builtin
  else if plainWords.contains word then .keyword
  else .name

end SplitTest.Layout
